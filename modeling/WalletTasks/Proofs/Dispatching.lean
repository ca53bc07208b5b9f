import Mathlib.Data.List.Induction
import Mathlib.Data.List.Nodup
import WalletTasks.Registry

/-!
# Which executor is found

A registry is built by calls that register executors, and keeps the first kind that was registered
again. It is refused for that kind. If there is none, the registry holds just the executors that
were registered, and finds each by its kind, and by any name of its kind: the label between blanks,
in whatever case.

* `Kind.ofName?_eq_some_iff`: which names stand for a kind.
* `Registry.Builder.gathers_of_calls`: what a builder holds after some calls.
* `Registry.dispatches`: a registry of executors of different kinds finds each of them.
* `Registry.ofCalls_dispatches`: when a registry is refused, and what it finds if it is not.
-/

namespace WalletTasks

/-! ## Names of kinds -/

namespace Text

/-- Letters are not blank in either case. -/
theorem isBlank_lowerAscii (c : Char) : isBlank (lowerAscii c) = isBlank c := by
  unfold lowerAscii
  split
  · rename_i h
    have hletters : ∀ n < 26, isBlank (Char.ofNat (65 + n)) = false ∧
        isBlank (Char.ofNat (65 + n + 32)) = false := by decide +kernel
    have hlower : 65 ≤ c.toNat := h.1
    have hupper : c.toNat ≤ 90 := h.2
    obtain ⟨hbefore, hafter⟩ := hletters (c.toNat - 65) (by omega)
    rw [Nat.add_sub_cancel' hlower] at hbefore hafter
    rw [hafter, ← Char.ofNat_toNat c, hbefore]
  · rfl

end Text

namespace Kind

/-- A name stands for a kind: between blanks it is the label, up to the case of ASCII letters. -/
def IsNamed (kind : Kind) (name : String) : Prop :=
  ∃ inner, Text.Pads inner name.toList ∧
    inner.map Text.lowerAscii = kind.label.toList.map Text.lowerAscii

/-- Labels hold no blanks. -/
theorem isBlank_label {kind : Kind} {c : Char} (h : c ∈ kind.label.toList) :
    Text.isBlank c = false := by
  have hlabels : (all.all fun kind => kind.label.toList.all fun c => !Text.isBlank c) = true := by
    decide +kernel
  have hlabel := List.all_eq_true.1 hlabels kind (mem_all kind)
  simpa using List.all_eq_true.1 hlabel c h

theorem isNamed_iff {kind : Kind} {name : String} :
    kind.IsNamed name ↔ Text.eqIgnoreCase kind.label (Text.trimString name) = true := by
  unfold Text.eqIgnoreCase Text.trimString
  rw [String.toList_ofList, beq_iff_eq]
  refine ⟨?_, fun h => ⟨_, Text.pads_trim _, h.symm⟩⟩
  rintro ⟨inner, hpads, heq⟩
  have hblank (c : Char) (hc : c ∈ inner) : Text.isBlank c = false := by
    have hlower : Text.lowerAscii c ∈ kind.label.toList.map Text.lowerAscii :=
      heq ▸ List.mem_map_of_mem hc
    obtain ⟨d, hd, hcd⟩ := List.mem_map.1 hlower
    rw [← Text.isBlank_lowerAscii, ← hcd, Text.isBlank_lowerAscii, isBlank_label hd]
  rw [Text.trim_eq_of_pads hpads hblank, heq]

/-- **A name is found as the kind that it stands for.** -/
theorem ofName?_eq_some_iff {kind : Kind} {name : String} :
    ofName? name = some kind ↔ kind.IsNamed name := by
  rw [isNamed_iff]
  constructor
  · intro h
    simpa using List.find?_some h
  · intro h
    cases hfound : ofName? name with
    | none =>
      have hnone := List.find?_eq_none.1 hfound kind (mem_all kind)
      exact absurd h (by simpa using hnone)
    | some found =>
      have hname : Text.eqIgnoreCase found.label (Text.trimString name) = true := by
        simpa using List.find?_some hfound
      -- two labels that are equal up to case belong to one kind
      have hsame : Text.eqIgnoreCase found.label kind.label = true := by
        unfold Text.eqIgnoreCase at hname h ⊢
        rw [beq_iff_eq] at hname h ⊢
        exact hname.trans h.symm
      rw [eq_of_eqIgnoreCase hsame]

/-- No name stands for two kinds. -/
theorem IsNamed.unique {kind other : Kind} {name : String} (h : kind.IsNamed name)
    (h' : other.IsNamed name) : kind = other :=
  Option.some.inj ((ofName?_eq_some_iff.2 h).symm.trans (ofName?_eq_some_iff.2 h'))

end Kind

/-! ## Building -/

namespace Registry

/-- The executor that a call registers. -/
def Registration.executor : Registration → Executor
  | .own e => e
  | .standard kind => .standard kind

/-- The first of some executors whose kind came before is of this kind. -/
def IsFirstRepeated (executors : List Executor) (kind : Kind) : Prop :=
  ∃ earlier e later, executors = earlier ++ e :: later ∧ e.kind = kind ∧
    kind ∈ earlier.map Executor.kind ∧ (earlier.map Executor.kind).Nodup

/-- An executor of a kind that came before makes the kinds repeat. -/
theorem not_nodup_of_mem {earlier : List Executor} {e : Executor}
    (h : e.kind ∈ earlier.map Executor.kind) (later : List Executor) :
    ¬((earlier ++ e :: later).map Executor.kind).Nodup := by
  intro hnodup
  rw [List.map_append, List.map_cons, List.nodup_append] at hnodup
  exact hnodup.2.2 _ h _ List.mem_cons_self rfl

theorem IsFirstRepeated.not_nodup {executors : List Executor} {kind : Kind}
    (h : IsFirstRepeated executors kind) : ¬(executors.map Executor.kind).Nodup := by
  obtain ⟨earlier, e, later, rfl, rfl, hmem, -⟩ := h
  exact not_nodup_of_mem hmem later

/-- No two kinds are the first that is repeated. -/
theorem IsFirstRepeated.unique {executors : List Executor} {kind other : Kind}
    (h : IsFirstRepeated executors kind) (h' : IsFirstRepeated executors other) : kind = other := by
  obtain ⟨earlier, e, later, rfl, rfl, hmem, hnodup⟩ := h
  obtain ⟨earlier', e', later', heq, rfl, hmem', hnodup'⟩ := h'
  -- Unless both are the same executor, one of them is among those that the other comes behind, and
  -- these repeat no kind.
  obtain ⟨between, rfl, hrest⟩ | ⟨between, rfl, hrest⟩ := List.append_eq_append_iff.1 heq
  · cases between with
    | nil => rw [(List.cons.inj hrest).1]
    | cons d ds =>
      obtain ⟨rfl, -⟩ := List.cons.inj hrest
      exact absurd hnodup' (not_nodup_of_mem hmem ds)
  · cases between with
    | nil => rw [(List.cons.inj hrest).1]
    | cons d ds =>
      obtain ⟨rfl, -⟩ := List.cons.inj hrest
      exact absurd hnodup (not_nodup_of_mem hmem' ds)

/-- What comes later does not change what is repeated first. -/
theorem IsFirstRepeated.append {executors : List Executor} {kind : Kind}
    (h : IsFirstRepeated executors kind) (more : List Executor) :
    IsFirstRepeated (executors ++ more) kind := by
  obtain ⟨earlier, e, later, rfl, hkind, hmem, hnodup⟩ := h
  exact ⟨earlier, e, later ++ more, by simp, hkind, hmem, hnodup⟩

namespace Builder

variable {b : Builder} {e : Executor} {executors : List Executor} {kind : Kind}

/-- An executor of a new kind comes last. -/
theorem place_of_not_mem (h : e.kind ∉ executors.map Executor.kind) :
    place e executors = executors ++ [e] := by
  induction executors with
  | nil => rfl
  | cons d ds ih =>
    rw [List.map_cons, List.mem_cons, not_or] at h
    rw [place, if_neg (Ne.symm h.1), ih h.2, List.cons_append]

/-- Placing an executor adds its kind and keeps the others. -/
theorem mem_kinds_place :
    kind ∈ (place e executors).map Executor.kind ↔
      kind ∈ executors.map Executor.kind ∨ kind = e.kind := by
  induction executors with
  | nil => simp [place]
  | cons d ds ih =>
    unfold place
    split
    · rename_i h
      simp only [List.map_cons, List.mem_cons, h]
      tauto
    · simp only [List.map_cons, List.mem_cons, ih]
      tauto

/-- What a builder holds once some executors were registered. -/
structure Gathers (b : Builder) (executors : List Executor) : Prop where
  kinds : ∀ kind, kind ∈ b.executors.map Executor.kind ↔ kind ∈ executors.map Executor.kind
  fresh : b.duplicate = none → (executors.map Executor.kind).Nodup ∧ b.executors = executors
  repeated : ∀ kind, b.duplicate = some kind → IsFirstRepeated executors kind

theorem gathers_empty : Gathers empty [] :=
  ⟨fun _ => Iff.rfl, fun _ => ⟨.nil, rfl⟩, by simp [empty]⟩

/-- The first kind that is registered twice is remembered. -/
theorem duplicate_register (h : b.duplicate = none) :
    (b.register e).duplicate =
      if e.kind ∈ b.executors.map Executor.kind then some e.kind else none := by
  simp [register, h]

theorem duplicate_register_of_some (h : b.duplicate = some kind) :
    (b.register e).duplicate = some kind := by
  simp [register, h]

/-- One more executor is registered. -/
theorem Gathers.register (h : Gathers b executors) (e : Executor) :
    Gathers (b.register e) (executors ++ [e]) where
  kinds kind := by
    rw [Builder.register, mem_kinds_place, h.kinds, List.map_append, List.mem_append]
    simp
  fresh hnone := by
    cases hsofar : b.duplicate with
    | some kind => simp [duplicate_register_of_some hsofar] at hnone
    | none =>
      obtain ⟨hnodup, heq⟩ := h.fresh hsofar
      have hnew : e.kind ∉ b.executors.map Executor.kind := by
        simpa [duplicate_register hsofar] using hnone
      refine ⟨?_, by rw [Builder.register, place_of_not_mem hnew, heq]⟩
      rw [List.map_append, List.map_singleton, ← List.concat_eq_append]
      exact hnodup.concat (heq ▸ hnew)
  repeated kind hsome := by
    cases hsofar : b.duplicate with
    | some earlier =>
      rw [duplicate_register_of_some hsofar] at hsome
      exact (h.repeated kind (hsofar.trans hsome)).append [e]
    | none =>
      obtain ⟨hnodup, heq⟩ := h.fresh hsofar
      rw [duplicate_register hsofar] at hsome
      split at hsome
      · rename_i hmem
        obtain rfl := Option.some.inj hsome
        exact ⟨executors, e, [], rfl, rfl, heq ▸ hmem, hnodup⟩
      · exact absurd hsome (by simp)

theorem perform_eq (b : Builder) (call : Registration) :
    b.perform call = b.register call.executor := by
  cases call <;> rfl

/-- **What a builder holds after any calls.** -/
theorem gathers_of_calls (calls : List Registration) :
    Gathers (calls.foldl perform empty) (calls.map Registration.executor) := by
  induction calls using List.reverseRecOn with
  | nil => exact gathers_empty
  | append_singleton earlier call ih =>
    rw [List.foldl_append, List.foldl_cons, List.foldl_nil, perform_eq, List.map_append,
      List.map_singleton]
    exact ih.register call.executor

end Builder

/-- A builder keeps just the first kind that was registered again. -/
theorem Builder.Gathers.duplicate_eq_some_iff {b : Builder} {executors : List Executor}
    (h : b.Gathers executors) {kind : Kind} :
    b.duplicate = some kind ↔ IsFirstRepeated executors kind := by
  refine ⟨h.repeated kind, fun hfirst => ?_⟩
  cases hkept : b.duplicate with
  | none => exact absurd (h.fresh hkept).1 hfirst.not_nodup
  | some kept => rw [(h.repeated kept hkept).unique hfirst]

/-! ## Finding executors -/

/-- A registry finds just some executors, each by its kind and by the names of its kind. -/
structure Dispatches (r : Registry) (executors : List Executor) : Prop where
  sorted : r.kinds.Pairwise fun k l => k.rank < l.rank
  mem_kinds : ∀ kind, kind ∈ r.kinds ↔ ∃ e ∈ executors, e.kind = kind
  found : ∀ e ∈ executors, r.executor e.kind = .ok e
  unknown : ∀ kind, (∀ e ∈ executors, e.kind ≠ kind) →
    r.executor kind = .error (.unknownKind kind.label)
  named : ∀ (kind : Kind) (name : String), kind.IsNamed name → r.lookup name = r.executor kind
  unnamed : ∀ name : String, (∀ kind : Kind, ¬kind.IsNamed name) →
    r.lookup name = .error (.unknownKind (Text.trimString name))

variable {executors : List Executor} {kind : Kind}

/-- Each of the executors is found if their kinds differ. -/
theorem executor_of_mem (hnodup : (executors.map Executor.kind).Nodup) {e : Executor}
    (he : e ∈ executors) : Registry.executor ⟨executors⟩ e.kind = .ok e := by
  rw [executor, find?_key hnodup he]

theorem executor_of_unregistered (h : ∀ e ∈ executors, e.kind ≠ kind) :
    Registry.executor ⟨executors⟩ kind = .error (.unknownKind kind.label) := by
  have hnone : executors.find? (fun e => e.kind = kind) = none :=
    List.find?_eq_none.2 fun e he => by simpa using h e he
  rw [executor, hnone]

/-- A name stands for the executor of the kind that it denotes. -/
theorem lookup_of_isNamed (r : Registry) {name : String} (h : kind.IsNamed name) :
    r.lookup name = r.executor kind := by
  rw [lookup, Kind.ofName?_eq_some_iff.2 h]

theorem lookup_of_not_isNamed (r : Registry) {name : String}
    (h : ∀ kind : Kind, ¬kind.IsNamed name) :
    r.lookup name = .error (.unknownKind (Text.trimString name)) := by
  have hnone : Kind.ofName? name = none :=
    Option.eq_none_iff_forall_ne_some.2 fun kind hkind => h kind (Kind.ofName?_eq_some_iff.1 hkind)
  rw [lookup, hnone]

/-- Kinds are sorted by where they are declared. -/
theorem kinds_sorted (hnodup : (executors.map Executor.kind).Nodup) :
    (Registry.kinds ⟨executors⟩).Pairwise fun k l => k.rank < l.rank := by
  have hle : (Registry.kinds ⟨executors⟩).Pairwise fun k l => decide (k.rank ≤ l.rank) = true :=
    List.pairwise_mergeSort
      (fun j k l hjk hkl => by simp only [decide_eq_true_eq] at *; omega)
      (fun k l => by simp only [Bool.or_eq_true, decide_eq_true_eq]; omega) _
  have hne : (Registry.kinds ⟨executors⟩).Nodup :=
    (List.mergeSort_perm _ _).nodup_iff.2 hnodup
  exact (hle.and hne).imp fun ⟨hkl, hdiffer⟩ =>
    Nat.lt_of_le_of_ne (of_decide_eq_true hkl) fun hrank => hdiffer (Kind.rank_injective hrank)

/-- **Executors of different kinds are found, and nothing else.** -/
theorem dispatches (hnodup : (executors.map Executor.kind).Nodup) :
    Dispatches ⟨executors⟩ executors where
  sorted := kinds_sorted hnodup
  mem_kinds kind := by rw [kinds, List.mem_mergeSort, List.mem_map]
  found _ he := executor_of_mem hnodup he
  unknown _ h := executor_of_unregistered h
  named _ _ h := lookup_of_isNamed _ h
  unnamed _ h := lookup_of_not_isNamed _ h

/-- The standard registry finds the standard executor of each kind. -/
theorem standard_dispatches : Dispatches standard (Kind.all.map Executor.standard) := by
  refine dispatches ?_
  rw [List.map_map, show Executor.kind ∘ Executor.standard = id from funext kind_standard,
    List.map_id]
  decide +kernel

/-- **A registry is refused for the first kind that was registered again, and if there was none it
finds just the executors that were registered.** -/
theorem ofCalls_dispatches (calls : List Registration) :
    let executors := calls.map Registration.executor
    (∀ kind, ofCalls calls = .error (.duplicateExecutor kind) ↔ IsFirstRepeated executors kind) ∧
      ((∃ kind, ofCalls calls = .error (.duplicateExecutor kind)) ↔
        ¬(executors.map Executor.kind).Nodup) ∧
      ((executors.map Executor.kind).Nodup →
        ∃ r, ofCalls calls = .ok r ∧ Dispatches r executors) ∧
      ∀ (name : String) (kind other : Kind), kind.IsNamed name → other.IsNamed name →
        kind = other := by
  intro executors
  have hgathers := Builder.gathers_of_calls calls
  have hrefused (kind : Kind) :
      ofCalls calls = .error (.duplicateExecutor kind) ↔ IsFirstRepeated executors kind := by
    rw [← hgathers.duplicate_eq_some_iff, ofCalls, Builder.build]
    cases (calls.foldl Builder.perform .empty).duplicate <;> simp
  -- refused exactly over the first repetition, or built
  refine ⟨hrefused, ⟨?_, fun hrepeats => ?_⟩, fun hnodup => ?_, fun _ _ _ => Kind.IsNamed.unique⟩
  · rintro ⟨kind, h⟩
    exact ((hrefused kind).1 h).not_nodup
  · cases hkept : (calls.foldl Builder.perform .empty).duplicate with
    | none => exact absurd (hgathers.fresh hkept).1 hrepeats
    | some kind => exact ⟨kind, (hrefused kind).2 (hgathers.repeated kind hkept)⟩
  · cases hkept : (calls.foldl Builder.perform .empty).duplicate with
    | none =>
      refine ⟨⟨executors⟩, ?_, dispatches hnodup⟩
      rw [ofCalls, Builder.build, hkept, (hgathers.fresh hkept).2]
    | some kind => exact absurd hnodup (hgathers.repeated kind hkept).not_nodup

/-- A registry is refused for the kind that is the first to repeat, and another one finds its
executors. -/
theorem sample_ofCalls_dispatches :
    (ofCalls [.standard .delay, .standard .weth, .own (.mock .weth), .own .delay] =
        .error (.duplicateExecutor .weth)) ∧
      ∃ r, ofCalls [.standard .weth, .own .delay] = .ok r ∧
        r.lookup " wETH\n" = .ok (.standard .weth) ∧ Kind.delay ∈ r.kinds ∧
        r.lookup "mock" = .error (.unknownKind "Mock") := by
  have hrefused := (ofCalls_dispatches [.standard .delay, .standard .weth, .own (.mock .weth),
    .own .delay]).1 .weth
  obtain ⟨r, hr, hfinds⟩ := (ofCalls_dispatches [.standard .weth, .own .delay]).2.2.1 (by decide)
  refine ⟨hrefused.2 ⟨[.standard .delay, .standard .weth], .mock .weth, [.delay], rfl, rfl, ?_⟩,
    r, hr, ?_, ?_, ?_⟩
  · decide
  · rw [hfinds.named .weth _ (Kind.ofName?_eq_some_iff.1 (by decide +kernel))]
    exact hfinds.found (.standard .weth) (by simp [Registration.executor])
  · exact (hfinds.mem_kinds .delay).2 ⟨.delay, by simp [Registration.executor], rfl⟩
  · rw [hfinds.named .mock _ (Kind.ofName?_eq_some_iff.1 (by decide +kernel))]
    exact hfinds.unknown .mock (by simp [Registration.executor, kind_standard, Executor.delay])

end Registry

end WalletTasks
