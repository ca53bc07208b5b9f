import WalletTasks.Proofs.Approaching

/-!
# What a dropped run has been charged for

A run of a ready job sends the charge for its running behind its first write. If the run is dropped
before, then the job has not been stored; if it is dropped later, then the charge has been sent. It
is only the write itself that may have come through without the run hearing of it, and so without a
charge.

* `World.IsSettled`: what the log may tell of a job.
* `drive_persist_settled`: the first write of a ready job.
* `run_settled`: a run of a ready job that is dropped, but not while it writes the job.
-/

namespace WalletTasks

variable {σ α : Type}

section

variable {s : Services σ} {r : Session} {w : World σ} {id : Identifier} {kind : Kind}
  {held job stored : Job}

/-- A charge that is owed is sent at once, whatever becomes of the run that waits for it. -/
theorem drive_charge_logs {before : Status}
    (howed : s.billing.chargeOwed before held.status held.task.kind = true)
    (next : Job → Except TaskError Unit → Program α) :
    World.LogsSome (fun e => e = .charged (.ofJob held r.user.login)) w
      (drive s r (.ask held (.charge before) next) w).world := by
  have hsent : (w.perform s r held (.charge before)).1.log =
      .charged (.ofJob held r.user.login) :: w.log := by
    obtain ⟨outside, reply, hcharge, -⟩ :=
      World.settleCharge_eq (s := s) (w := w) r.user.login before held
    have hstart : (w.startRequest s r held (.charge before)).1.log =
        .charged (.ofJob held r.user.login) :: w.log := by
      simp only [World.startRequest, howed, if_true, hcharge, World.lag]
      simp only [BillingPolicy.chargeEvents, if_pos howed, List.singleton_append]
    rw [World.perform_eq_of_uninterruptible rfl]
    rcases hrequest : w.startRequest s r held (.charge before) with ⟨w₁, held₁, v | ⟨due, v⟩⟩
    all_goals rw [hrequest] at hstart
    · exact hstart
    · dsimp only
      split <;> exact hstart
  have hgrown : World.LogsSome (fun e => e = .charged (.ofJob held r.user.login)) w
      (w.perform s r held (.charge before)).1 := ⟨[_], hsent, _, List.mem_singleton_self _, rfl⟩
  simp only [drive]
  rcases hp : w.perform s r held (.charge before) with ⟨w', held', _ | a | message⟩
  all_goals rw [hp] at hgrown
  · exact hgrown
  · exact hgrown.append (drive_grows _)
  · exact hgrown

/-- What the log has got of a job since: it has not been stored, or it has been stored as done, or
it has been charged for running. -/
def World.IsSettled (id : Identifier) (w w' : World σ) : Prop :=
  LogsOnly (fun e => e.written? id = none) w w' ∨
    LogsSome (fun e => e.written? id = some .done) w w' ∨
    LogsSome (fun e => ∃ charge, e.chargeFor? id = some charge ∧ charge.status = .running) w w'

/-- What is settled is read from the log alone. -/
theorem World.IsSettled.of_log_eq {w₁ w₂ : World σ} (hlog : w₁.log = w.log)
    (h : IsSettled id w₁ w₂) : IsSettled id w w₂ := by
  unfold IsSettled LogsOnly LogsSome at *
  rwa [hlog] at h

/-- A ready job is written: as done, or as running, which is charged for next. -/
theorem drive_store_settled (hs : s.StoreSucceeds) (hget : w.store.get? job.id = some stored)
    (hbill : s.billing.isBillable job.task.kind = true)
    (hready : stored.status = .ready) (hstatus : job.status = .running ∨ job.status = .done)
    {next f : Job → Except TaskError Unit → Program Unit}
    (hnext : ∀ held, next held (.ok ()) = .ask held (.charge stored.status) f)
    (hcut : (Program.ask job .store next).isDroppedAt Request.isStore s r w = false) :
    World.IsSettled job.id w (drive s r (.ask job .store next) w).world := by
  obtain ⟨outside, hupdate⟩ := World.updateJob_eq (w := w) hs (w.stamp s job) hget
  have hlog : (w.updateJob s (w.stamp s job)).1.log = .updated (w.stamp s job) :: w.log := by
    rw [hupdate]
  have hwritten : (w.updateJob s (w.stamp s job)).2 = .ok () := by rw [hupdate]
  -- the hypothesis excludes that the program is dropped here
  refine drive_undergo_of rfl (World.startRequest_store hwritten) hcut
    (fun hclass => by cases hclass) fun _ => ?_
  rw [hnext]
  obtain ⟨-, hlogged⟩ := World.undergo_frame s r (w.updateJob s (w.stamp s job)).1
  rw [hlog] at hlogged
  generalize ((w.updateJob s (w.stamp s job)).1.undergo s r).1 = w₁ at hlogged
  rcases hstatus with hrunning | hdone
  · have howed : s.billing.chargeOwed stored.status (w.stamp s job).status
        (w.stamp s job).task.kind = true := by
      have hstamp : (w.stamp s job).status = .running := hrunning
      have hkind : (w.stamp s job).task.kind = job.task.kind := rfl
      rw [hready, hstamp, hkind, BillingPolicy.chargeOwed, hbill]
      rfl
    refine .inr (.inr (.prepend (.single hlogged trivial) ?_))
    obtain ⟨events, hevents, e, he, rfl⟩ := drive_charge_logs (r := r) (w := w₁) howed f
    exact ⟨events, hevents, _, he, _, if_pos rfl, hrunning⟩
  · refine .inr (.inl (.append ⟨[_], hlogged, _, List.mem_singleton_self _, ?_⟩ (drive_grows _)))
    have hstatus : Event.written? job.id (.updated (w.stamp s job)) = some job.status := if_pos rfl
    exact hstatus.trans (congrArg some hdone)

/-- **The first write of a ready job.** Unless the program is dropped while the job is written, what
is written is that the job is done, or it is charged for running. -/
theorem drive_persist_settled (hs : s.StoreSucceeds) (hget : w.store.get? job.id = some stored)
    (hready : stored.status = .ready) (hbill : s.billing.isBillable job.task.kind = true)
    (hstatus : job.status = .running ∨ job.status = .done) (f : Job → Unit → Program Unit)
    (hcut : ((Routine.persist job).andThen f).isDroppedAt Request.isStore s r w = false) :
    World.IsSettled job.id w (drive s r ((Routine.persist job).andThen f) w).world := by
  rw [Program.persist_andThen] at hcut ⊢
  have hne : stored.status ≠ job.status := by
    rcases hstatus with h | h <;> rw [hready, h] <;> nofun
  -- the stored copy is read
  obtain ⟨outside, hread⟩ := World.getJob_eq hs hget
  have hfound : (w.getJob s job.id).2 = .ok stored := by rw [hread]
  obtain ⟨hstore₁, hlog₁⟩ := World.undergo_frame s r (w.getJob s job.id).1
  simp only [hread] at hstore₁ hlog₁
  refine drive_undergo_of rfl (World.startRequest_reread hfound) hcut
    (fun _ => .inl (.of_eq ?_)) ?_
  · rw [hread, hlog₁]
  rw [hread]
  generalize (World.undergo s r _).1 = w₁ at hstore₁ hlog₁ ⊢
  intro hcut
  refine .of_log_eq hlog₁ ?_
  dsimp only at hcut ⊢
  -- its change of status is noted
  obtain ⟨outside', hnote⟩ := World.recordStatus_eq (w := w₁) hs stored.status job
  obtain ⟨hstore₂, hlog₂⟩ := World.undergo_frame s r (w₁.recordStatus s stored.status job)
  simp only [hnote] at hstore₂ hlog₂
  refine drive_undergo_of rfl (World.startRequest_note hne) hcut (fun _ => .inl (.of_eq ?_)) ?_
  · rw [hnote, hlog₂]
  rw [hnote]
  generalize (World.undergo s r _).1 = w₂ at hstore₂ hlog₂ ⊢
  intro hcut
  refine .of_log_eq hlog₂ ?_
  -- and then the job is written
  have hget₂ : w₂.store.get? job.id = some stored := by
    rw [hstore₂, Store.get?_noted, hstore₁, hget]
  exact drive_store_settled hs hget₂ hbill hready hstatus (fun _ => rfl) hcut

/-- **A program of a ready job that is dropped**, but not while the job is written, has settled what
it has stored. -/
theorem Program.Alike.isSettled {p p' : Program Unit} (hp : p.Alike id kind p')
    (hs : s.StoreSucceeds) (hget : w.store.get? id = some stored)
    (hready : stored.status = .ready) (hbill : s.billing.isBillable kind = true)
    (hcut : p.isDroppedAt Request.isStore s r w = false) :
    World.IsSettled id w (drive s r p w).world := by
  induction hp generalizing w with
  | persisting job hid hkind hstatus f =>
    subst hid hkind
    exact drive_persist_settled hs hget hready hbill hstatus f hcut
  | failing | crashing => exact .inl (.of_eq rfl)
  | @asking held held' q next next' hq hnext ih =>
    obtain ⟨w₁, a, hstore, hlog, hperform⟩ := World.perform_immediate (s := s) (r := r) hq w
    have hperform₁ : w.perform s r held q = (w₁, held, some (.answer a)) :=
      hperform held fun st => st
    have hhear := World.hear_eq (σ := σ) (Request.isInterruptible_of_isImmediate hq) a
    simp only [drive, Program.isDroppedAt, hperform₁, hhear] at hcut ⊢
    exact .of_log_eq hlog (ih a (by rw [hstore, hget]) hcut)

/-- **A run of a ready job that is dropped**, but not while it writes the job, has not stored the
job as running, or it has charged for that. -/
theorem run_settled (hs : s.StoreSucceeds) (user : Account)
    (hget : w.store.get? job.id = some stored)
    (hready : stored.status = .ready) (hjob : job.status = .ready)
    (hbill : s.billing.isBillable job.task.kind = true)
    (hcut : isDroppedAt Request.isStore s .standard user job w = false)
    (hdropped : isDropped s .standard user job w = true) :
    World.LogsOnly (fun e => e.written? job.id ≠ some .running) w (run s .standard user job w).1 ∨
      World.LogsSome (fun e => ∃ charge, e.chargeFor? job.id = some charge ∧
        charge.status = .running) w (run s .standard user job w).1 := by
  have hcompletes := run_completes hcut hdropped job.id
  obtain ⟨w₁, r, hbegin, -, hstore, hasked, hfailed⟩ := run_of_isDropped job.id hdropped
  unfold isDroppedAt at hcut
  rw [hbegin] at hcut
  rw [← hstore] at hget
  have halike : Program.Alike job.id job.task.kind
      ((Executor.standard job.task.kind).run (r.info s.limits) job) _ :=
    Executor.standard_alike hjob
  have hbehind := hfailed.mono (Q := fun _ => True) fun _ _ => trivial
  have hbefore := hasked.mono (Q := fun _ => True) fun _ _ => trivial
  rcases halike.isSettled hs hget hready hbill hcut with hnone | hdone | hcharged
  · refine .inl (((hasked.mono ?_).trans (hnone.mono ?_)).trans (hfailed.mono ?_))
    · rintro e he
      rw [he]
      nofun
    · rintro e he
      rw [he]
      nofun
    · rintro e (he | he) <;> rw [he] <;> nofun
  · exact absurd ((hdone.append hbehind).prepend hbefore) (hcompletes.not_logsSome fun e he => he)
  · exact .inr ((hcharged.append hbehind).prepend hbefore)

end

end WalletTasks
