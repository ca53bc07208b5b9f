import WalletTasks.Proofs.Keeping

/-!
# What a run has been told

The log of a world tells which calls were made and what a run was told of each of them. As long as
every call is answered with a value, the transcript of a run is known call by call. Once a
transaction has been submitted for real, the rest of a run can only be followed by what it leaves
alone.

* `Recounts`: some events are the events of calls that have been answered.
* `Routine.meets_told`: one more call of a program, seen from where its run started.
* `Routine.meets_unreal`: a program that submits nothing for real adds nothing of that kind.
-/

namespace WalletTasks

variable {σ α : Type}

/-- A call, and what a run was told of it. -/
abbrev Told : Type := (c : Call) × Except TaskError c.Answer

/-- What a run was told of a call. -/
def Event.told? : Event → Option Told
  | .answered c a => some ⟨c, a⟩
  | _ => none

theorem Request.Leaves.isReal_eq {q : Request} {e : Event} (h : q.Leaves e)
    (hq : q.isReal = false) : e.isReal = false := by
  cases q with
  | call c =>
    cases e with
    | called time c' response =>
      obtain rfl : c' = c := h
      exact hq
    | answered => rfl
    | updated | charged | fundsAsked => cases h
  | store | charge => cases e <;> first | rfl | cases h
  | _ => cases h

theorem Event.request?_eq (e : Event) : e.request? = e.call?.bind Call.request? := by
  cases e <;> rfl

/-- The requests are those of the calls that were made. -/
theorem traceOf_request? (events : List Event) :
    traceOf Event.request? events = (traceOf Event.call? events).filterMap Call.request? := by
  unfold traceOf
  rw [List.filterMap_filterMap]
  congr 1
  funext e
  exact e.request?_eq

/-- Some events are those of calls that have been made one after the other, were answered so, and
submit nothing for real. -/
structure Recounts (told : List Told) (events : List Event) : Prop where
  call : traceOf Event.call? events = told.map Sigma.fst
  told : traceOf Event.told? events = told
  unreal : ∀ e ∈ events, e.isReal = false

namespace Recounts

variable {s : Services σ} {told : List Told} {c : Call} {a : c.Answer} {newer older : List Event}

/-- A rehearsal's answer is told at the end. -/
theorem heard (h : Recounts told older) (hx : Heard s c a newer) (hc : c.isReal = false) :
    Recounts (told ++ [⟨c, .ok a⟩]) (newer ++ older) := by
  obtain ⟨time, x, ha⟩ := hx
  refine ⟨?_, ?_, ?_⟩
  · rw [traceOf_append, h.call, List.map_append]
    rfl
  · rw [traceOf_append, h.told]
    rfl
  · intro e he
    rcases List.mem_append.1 he with he | he
    · rcases List.mem_cons.1 he with rfl | he
      · rfl
      · obtain rfl := List.mem_singleton.1 he
        exact hc
    · exact h.unreal e he

/-- Nothing is told, and no call is made, while a job is stored. -/
theorem of_storing (h : ∀ e ∈ newer, e.isOfStoring = true) : Recounts [] newer := by
  refine ⟨traceOf_eq_nil fun e he => ?_, traceOf_eq_nil fun e he => ?_, fun e he => ?_⟩
  all_goals
    have := h e he
    cases e <;> first | rfl | cases this

/-- The gate tells nothing. -/
theorem of_gate {login : String} {kind : Kind} {result : Except Fault Unit}
    (h : Gate s login kind newer result) : Recounts [] newer := by
  cases h <;> exact ⟨rfl, rfl, by simp [Event.isReal]⟩

theorem append (h : Recounts [] newer) (ho : Recounts told older) :
    Recounts told (newer ++ older) := by
  refine ⟨?_, ?_, List.forall_mem_append.2 ⟨h.unreal, ho.unreal⟩⟩
  · rw [traceOf_append, h.call, ho.call]
    exact List.append_nil _
  · rw [traceOf_append, h.told, ho.told]
    exact List.append_nil _

/-- The requests that were submitted are known from what was told. -/
theorem request (h : Recounts told older) :
    traceOf Event.request? older = told.filterMap fun t => t.1.request? := by
  rw [traceOf_request?, h.call, List.filterMap_map]
  rfl

end Recounts

/-! ## Programs -/

theorem Exchange.unreal {s : Services σ} {c : Call} {events : List Event}
    {v : Verdict (Except TaskError c.Answer)} (hx : Exchange s c events v)
    (hc : c.isReal = false) : ∀ e ∈ events, e.isReal = false := by
  cases hx <;> simp [Event.isReal, hc]

/-- What holds of the world wherever a program ends. -/
theorem Ending.world_of_meets {P : World σ → Prop} {e : Ending σ α}
    (h : e.Meets (fun w _ _ => P w) (fun w _ _ => P w)) : P e.world := by
  rcases e with ⟨w, held, (c | a) | message | _⟩ <;> exact h

namespace Routine

variable {s : Services σ} {r : Session} {w : World σ} {held : Job}

/-- One more call of a program that submits nothing for real, seen from where its run started. -/
theorem meets_told {c : Call} {base older : List Event} {told : List Told}
    {D : World σ → Job → c.Answer → Prop} {H : World σ → Job → Halt → Prop}
    (hc : c.isReal = false) (hlog₀ : w.log = older ++ base) (ho : Recounts told older)
    (hhalt : ∀ w' events h, w'.log = events ++ base → (∀ e ∈ events, e.isReal = false) →
      H w' held h)
    (hdone : ∀ w' events a, w'.log = events ++ base →
      Recounts (told ++ [⟨c, .ok a⟩]) events → D w' held a) :
    (call c).Meets s r w held D H := by
  refine meets_call ?_ ?_
  · intro w' e h _ hlog hx
    obtain ⟨v, hv⟩ := hx.exchange
    exact hhalt w' (e ++ older) h (by rw [hlog, hlog₀, List.append_assoc])
      (List.forall_mem_append.2 ⟨hv.unreal hc, ho.unreal⟩)
  · intro w' e a _ hlog hx
    exact hdone w' (e ++ older) a (by rw [hlog, hlog₀, List.append_assoc]) (ho.heard hx hc)

/-- A program that submits nothing for real leaves no event that says so. -/
theorem meets_unreal {m : Routine α} {D : World σ → Job → α → Prop}
    {H : World σ → Job → Halt → Prop}
    (hm : m.KeepsTo (fun q => q.isReal = false) (fun _ => True))
    (hhalt : ∀ w' held' h, World.LogsOnly (·.isReal = false) w w' → H w' held' h)
    (hdone : ∀ w' held' a, World.LogsOnly (·.isReal = false) w w' → D w' held' a) :
    m.Meets s r w held D H := by
  obtain ⟨hlog, -⟩ :=
    drive_logsOnly (s := s) (r := r) (w := w) (fun _ _ h => h) (hm held trivial)
  refine meets_of_drive (Q := fun w' _ => World.LogsOnly (·.isReal = false) w w') ?_ hhalt hdone
  exact hlog.mono fun e ⟨q, hq, he⟩ => he.isReal_eq hq

/-- Storing the job only leaves events of storing, and it keeps whose job it is, whatever comes of
it. -/
theorem meets_persist_storing {D : World σ → Job → Unit → Prop} {H : World σ → Job → Halt → Prop}
    (hhalt : ∀ w' held' h, World.LogsOnly (·.isOfStoring = true) w w' → H w' held' h)
    (hdone : ∀ w' held', World.LogsOnly (·.isOfStoring = true) w w' →
      held'.profileId = held.profileId → held'.userId = held.userId → D w' held' ()) :
    persist.Meets s r w held D H := by
  have hpersist : persist.KeepsTo (fun q => q.isAside = false)
      (fun job => job.profileId = held.profileId ∧ job.userId = held.userId) :=
    keepsTo_persist fun _ h => h
  obtain ⟨hlog, howner⟩ := drive_logsOnly (s := s) (r := r) (w := w) (fun _ _ h => h)
    (hpersist held ⟨rfl, rfl⟩)
  refine meets_of_drive (Q := fun w' job => World.LogsOnly (·.isOfStoring = true) w w' ∧
    job.profileId = held.profileId ∧ job.userId = held.userId) ⟨?_, howner⟩ ?_ ?_
  · refine hlog.mono fun e ⟨q, hq, he⟩ => ?_
    rw [he.isOfStoring_eq, hq]
    rfl
  · rintro w' held' h ⟨hlog, -⟩
    exact hhalt w' held' h hlog
  · rintro w' held' ⟨⟩ ⟨hlog, hprofile, huser⟩
    exact hdone w' held' hlog hprofile huser

end Routine

end WalletTasks
