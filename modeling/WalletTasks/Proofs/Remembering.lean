import Mathlib.Data.List.Induction
import WalletTasks.Store

/-!
# The store remembers what was written to it

What the store shows is compared with the calls that were made of it, taken by themselves. Only an
update can fail, and it fails exactly if no job with its identifier was ever inserted. So the calls
alone say which of them succeed, and with that what has to be read back.

* `remembers_replay`: what the store shows after some calls, as the calls have it.
* `view_replay`: for an identifier, only the calls for it count.
* `replay_remembers`: both together, with what an update that fails leaves behind.
-/

namespace WalletTasks.Store

/-! ## Calls by themselves -/

/-- Whether one of some calls inserts a job with an identifier. -/
def inserts (calls : List Write) (id : Identifier) : Bool :=
  calls.any fun
    | .insert job => job.id = id
    | _ => false

namespace Write

/-- Whether a call succeeds behind others: all do but an update of a job that was never inserted. -/
def succeeds (past : List Write) : Write → Bool
  | .update job => inserts past job.id
  | _ => true

/-- The job that a call writes under an identifier. -/
def job? (id : Identifier) : Write → Option Job
  | .insert job | .update job => if job.id = id then some job else none
  | _ => none

/-- The change of status that a call notes for an identifier. -/
def change? (id : Identifier) : Write → Option StatusChange
  | .record change => if change.jobId = id then some change else none
  | _ => none

/-- The transaction that a call notes for an identifier. -/
def entry? (id : Identifier) : Write → Option AuditEntry
  | .audit entry => if entry.jobId = id then some entry else none
  | _ => none

def isUpdate : Write → Bool
  | .update _ => true
  | _ => false

end Write

/-- The calls that succeed when some are made one after the other behind others. -/
def successes (past : List Write) : List Write → List Write
  | [] => []
  | c :: calls =>
    if c.succeeds past then c :: successes (past ++ [c]) calls else successes (past ++ [c]) calls

/-- The job that calls have written last under an identifier. -/
def lastWritten (calls : List Write) (id : Identifier) : Option Job :=
  ((successes [] calls).filterMap (Write.job? id)).getLast?

/-- None of some calls inserts a job with an identifier. -/
def NeverInserted (calls : List Write) (id : Identifier) : Prop :=
  ∀ job, .insert job ∈ calls → job.id ≠ id

/-- A job has been inserted if one of the calls inserted it. -/
theorem inserts_iff {calls : List Write} {id : Identifier} :
    inserts calls id = true ↔ ∃ job, .insert job ∈ calls ∧ job.id = id := by
  unfold inserts
  rw [List.any_eq_true]
  constructor
  · rintro ⟨c, hc, h⟩
    cases c with
    | insert job => exact ⟨job, hc, by simpa using h⟩
    | _ => cases h
  · rintro ⟨job, hjob, hid⟩
    exact ⟨_, hjob, by simpa using hid⟩

theorem neverInserted_iff {calls : List Write} {id : Identifier} :
    NeverInserted calls id ↔ inserts calls id = false := by
  rw [← Bool.not_eq_true, inserts_iff]
  exact ⟨fun h ⟨job, hjob, hid⟩ => h job hjob hid, fun h job hjob hid => h ⟨job, hjob, hid⟩⟩

theorem inserts_concat (calls : List Write) (c : Write) (id : Identifier) :
    inserts (calls ++ [c]) id = (inserts calls id || inserts [c] id) :=
  List.any_append

/-- Whether a call succeeds depends on what was called before it. -/
theorem successes_append (past calls more : List Write) :
    successes past (calls ++ more) = successes past calls ++ successes (past ++ calls) more := by
  induction calls generalizing past with
  | nil => simp [successes]
  | cons c calls ih =>
    simp only [List.cons_append, successes, ih, List.append_assoc, List.nil_append]
    split <;> rfl

theorem successes_concat (calls : List Write) (c : Write) :
    successes [] (calls ++ [c]) =
      successes [] calls ++ if c.succeeds calls then [c] else [] := by
  rw [successes_append]
  rfl

/-! ## One call -/

variable {s t : Store} {c d : Write} {id : Identifier}

/-- Whether a store takes a call: all but an update of a job that it does not hold. -/
def takes (s : Store) : Write → Bool
  | .update job => (s.get? job.id).isSome
  | _ => true

theorem apply_update (s : Store) (job : Job) :
    s.apply (.update job) =
      if s.takes (.update job) then
        ({ s with jobs := place job s.jobs, writes := s.writes + 1 }, .ok ())
      else (s, .error (missing job.id)) := by
  by_cases h : (s.get? job.id).isSome = true <;> simp [apply, takes, update?, h]

/-- A call is refused exactly if the store does not take it, and then leaves all as it was. -/
theorem apply_snd (s : Store) (c : Write) :
    (s.apply c).2 = if s.takes c then .ok () else .error (missing c.id) := by
  cases c with
  | update job =>
    rw [apply_update]
    split <;> rfl
  | _ => rfl

/-- A call that fails leaves the store as it is. -/
theorem apply_of_not_takes (h : s.takes c = false) : (s.apply c).1 = s := by
  cases c with
  | update job => rw [apply_update, h]; rfl
  | _ => cases h

/-- A job that is written is read, and all others are as before. -/
theorem get?_apply (h : s.takes c = true) :
    (s.apply c).1.get? id = (c.job? id).or (s.get? id) := by
  have hplace (job : Job) : (place job s.jobs).find? (fun j => j.id = id) =
      (if job.id = id then some job else none).or (s.get? id) := by
    rw [find?_place]
    split <;> rfl
  cases c with
  | insert job => exact hplace job
  | update job =>
    rw [apply_update, h]
    exact hplace job
  | _ => rfl

/-- A change of status is the only call that adds to the history. -/
theorem historyOf_apply :
    (s.apply c).1.historyOf id = s.historyOf id ++ (c.change? id).toList := by
  cases c with
  | update job =>
    rw [apply_update]
    split <;> exact (List.append_nil _).symm
  | record change =>
    simp only [apply, record, historyOf, Write.change?, List.filter_append]
    by_cases hid : change.jobId = id <;> simp [hid]
  | _ => exact (List.append_nil _).symm

/-- An entry for the audit list is the only call that adds to that list. -/
theorem transactionsOf_apply :
    (s.apply c).1.transactionsOf id = s.transactionsOf id ++ (c.entry? id).toList := by
  cases c with
  | update job =>
    rw [apply_update]
    split <;> exact (List.append_nil _).symm
  | audit entry =>
    simp only [apply, audit, transactionsOf, Write.entry?, List.filter_append]
    by_cases hid : entry.jobId = id <;> simp [hid]
  | _ => exact (List.append_nil _).symm

/-- Updates that succeed are counted, and nothing else. -/
theorem writes_apply (h : s.takes c = true) :
    (s.apply c).1.writes = s.writes + [c].countP Write.isUpdate := by
  cases c with
  | update job => rw [apply_update, h]; rfl
  | _ => rfl

/-! ## Calls in a row -/

/-- A store shows what some calls have written to it: of each job what the last successful call
has written, the changes of status and the transactions as they were noted, and how many updates
have succeeded. -/
structure Remembers (s : Store) (calls : List Write) : Prop where
  inserted : ∀ id, (s.get? id).isSome = inserts calls id
  job : ∀ id, s.get? id = lastWritten calls id
  history : ∀ id, s.historyOf id = calls.filterMap (Write.change? id)
  transactions : ∀ id, s.transactionsOf id = calls.filterMap (Write.entry? id)
  writes : s.writes = (successes [] calls).countP Write.isUpdate

namespace Remembers

variable {calls : List Write}

theorem empty : Remembers empty [] :=
  ⟨fun _ => rfl, fun _ => rfl, fun _ => rfl, fun _ => rfl, rfl⟩

/-- The calls say which one the store takes next. -/
theorem takes_eq (h : Remembers s calls) (c : Write) : s.takes c = c.succeeds calls := by
  cases c with
  | update job => exact h.inserted job.id
  | _ => rfl

/-- One more call is remembered too. -/
theorem apply (h : Remembers s calls) (c : Write) :
    Remembers (s.apply c).1 (calls ++ [c]) := by
  have hhistory (id : Identifier) :
      (s.apply c).1.historyOf id = (calls ++ [c]).filterMap (Write.change? id) := by
    rw [historyOf_apply, h.history, List.filterMap_append]
    cases hc : c.change? id <;> simp [hc]
  have htransactions (id : Identifier) :
      (s.apply c).1.transactionsOf id = (calls ++ [c]).filterMap (Write.entry? id) := by
    rw [transactionsOf_apply, h.transactions, List.filterMap_append]
    cases hc : c.entry? id <;> simp [hc]
  cases htakes : s.takes c with
  | false =>
    -- What is refused is an update, which is not an insertion.
    have hsuccesses : successes [] (calls ++ [c]) = successes [] calls := by
      rw [successes_concat, ← h.takes_eq, htakes]
      simp
    have hinserts (id : Identifier) : inserts (calls ++ [c]) id = inserts calls id := by
      rw [inserts_concat]
      cases c with
      | update job => exact Bool.or_false _
      | _ => cases htakes
    refine ⟨fun id => ?_, fun id => ?_, hhistory, htransactions, ?_⟩
    · rw [apply_of_not_takes htakes, h.inserted, hinserts]
    · rw [apply_of_not_takes htakes, h.job, lastWritten, lastWritten, hsuccesses]
    · rw [apply_of_not_takes htakes, h.writes, hsuccesses]
  | true =>
    have hsuccesses : successes [] (calls ++ [c]) = successes [] calls ++ [c] := by
      rw [successes_concat, ← h.takes_eq, htakes]
      rfl
    refine ⟨fun id => ?_, fun id => ?_, hhistory, htransactions, ?_⟩
    · rw [get?_apply htakes, Option.isSome_or, h.inserted, inserts_concat]
      cases c with
      | insert job => by_cases hid : job.id = id <;> simp [Write.job?, inserts, hid]
      | update job =>
        -- What is updated is there already.
        have hthere : inserts calls job.id = true := (h.inserted job.id).symm.trans htakes
        by_cases hid : job.id = id
        · subst hid
          simp [hthere]
        · simp [Write.job?, inserts, hid]
      | _ => simp [Write.job?, inserts]
    · rw [get?_apply htakes, h.job, lastWritten, lastWritten, hsuccesses,
        List.filterMap_append, List.getLast?_append]
      cases hc : c.job? id <;> simp [hc]
    · rw [writes_apply htakes, h.writes, hsuccesses, List.countP_append]

end Remembers

/-- **What the store shows is what was written to it.** -/
theorem remembers_replay (calls : List Write) : Remembers (replay calls) calls := by
  induction calls using List.reverseRecOn with
  | nil => exact .empty
  | append_singleton calls c ih =>
    unfold replay
    rw [List.foldl_append]
    exact ih.apply c

/-! ## Calls for different identifiers -/

/-- All that is observed of an identifier. -/
structure View where
  job : Except StoreError Job
  history : List StatusChange
  transactions : List AuditEntry

/-- What a store shows of an identifier. -/
def view (s : Store) (id : Identifier) : View := ⟨s.read id, s.historyOf id, s.transactionsOf id⟩

/-- Two stores with the same view of a job hold the same job. -/
theorem get?_eq_of_view_eq (h : s.view id = t.view id) : s.get? id = t.get? id := by
  have hread : s.read id = t.read id := congrArg View.job h
  unfold read at hread
  cases hs : s.get? id <;> cases ht : t.get? id <;> simp_all

theorem view_eq (hget : s.get? id = t.get? id) (hhistory : s.historyOf id = t.historyOf id)
    (htransactions : s.transactionsOf id = t.transactionsOf id) : s.view id = t.view id := by
  simp only [view, read, hget, hhistory, htransactions]

/-- A call for another identifier writes nothing under this one. -/
theorem Write.none_of_ne (h : c.id ≠ id) :
    c.job? id = none ∧ c.change? id = none ∧ c.entry? id = none := by
  cases c with
  | insert job => exact ⟨if_neg h, rfl, rfl⟩
  | update job => exact ⟨if_neg h, rfl, rfl⟩
  | record change => exact ⟨rfl, if_neg h, rfl⟩
  | audit entry => exact ⟨rfl, rfl, if_neg h⟩

/-- **A call for another identifier changes nothing.** -/
theorem view_apply_of_ne (s : Store) (h : c.id ≠ id) : (s.apply c).1.view id = s.view id := by
  obtain ⟨hjob, hchange, hentry⟩ := Write.none_of_ne h
  refine view_eq ?_ ?_ ?_
  · cases htakes : s.takes c with
    | false => rw [apply_of_not_takes htakes]
    | true => rw [get?_apply htakes, hjob, Option.none_or]
  · rw [historyOf_apply, hchange]
    exact List.append_nil _
  · rw [transactionsOf_apply, hentry]
    exact List.append_nil _

/-- Two stores that show the same of an identifier take the same calls for it. -/
theorem takes_congr (h : s.view c.id = t.view c.id) : s.takes c = t.takes c := by
  cases c with
  | update job => exact congrArg Option.isSome (get?_eq_of_view_eq h)
  | _ => rfl

/-- Two stores that show the same of an identifier still do so after a call for it. -/
theorem view_apply_congr (h : s.view id = t.view id) (hid : c.id = id) :
    (s.apply c).1.view id = (t.apply c).1.view id := by
  subst hid
  have hhistory : s.historyOf c.id = t.historyOf c.id := congrArg View.history h
  have htransactions : s.transactionsOf c.id = t.transactionsOf c.id :=
    congrArg View.transactions h
  have htakes := takes_congr h
  cases hs : s.takes c with
  | false =>
    rw [apply_of_not_takes hs, apply_of_not_takes (htakes ▸ hs)]
    exact h
  | true =>
    refine view_eq ?_ ?_ ?_
    · rw [get?_apply hs, get?_apply (htakes ▸ hs), get?_eq_of_view_eq h]
    · rw [historyOf_apply, historyOf_apply, hhistory]
    · rw [transactionsOf_apply, transactionsOf_apply, htransactions]

/-- **For an identifier, only the calls for it count.** -/
theorem view_replay (calls : List Write) (id : Identifier) :
    (replay calls).view id = (replay (calls.filter fun c => c.id = id)).view id := by
  induction calls using List.reverseRecOn with
  | nil => rfl
  | append_singleton calls c ih =>
    simp only [replay, List.filter_append, List.foldl_append] at ih ⊢
    by_cases hid : c.id = id
    · simpa [hid] using view_apply_congr ih hid
    · simpa [hid] using (view_apply_of_ne _ hid).trans ih

/-- Calls for different identifiers may change places. -/
theorem view_replay_swap (before after : List Write) (h : c.id ≠ d.id) (id : Identifier) :
    (replay (before ++ c :: d :: after)).view id =
      (replay (before ++ d :: c :: after)).view id := by
  have hfilter : (before ++ c :: d :: after).filter (fun c => c.id = id) =
      (before ++ d :: c :: after).filter fun c => c.id = id := by
    simp only [List.filter_append, List.filter_cons]
    by_cases hc : c.id = id
    · have hd : d.id ≠ id := fun hd => h (hc.trans hd.symm)
      simp [hd]
    · simp [hc]
  rw [view_replay, hfilter, ← view_replay]

/-- **The store remembers what was written to it.** Behind any calls, the job that is read is the
one that was written last, by an insertion or by an update that succeeded, and there is none exactly
if none was ever inserted. Changes of status and transactions are there as they were noted, in their
order, and the updates that succeeded are counted. An update fails exactly if its job was never
inserted, and then leaves the store as it was; no other call fails. Of an identifier, only the calls
for it are seen: those for others change nothing, so that calls for different identifiers may change
places, and end as they would have ended. -/
theorem replay_remembers (calls : List Write) :
    let s := replay calls
    (∀ id, s.read id =
        match lastWritten calls id with
        | some job => .ok job
        | none => .error (missing id)) ∧
      (∀ id, s.read id = .error (missing id) ↔ NeverInserted calls id) ∧
      (∀ id, s.historyOf id = calls.filterMap (Write.change? id)) ∧
      (∀ id, s.transactionsOf id = calls.filterMap (Write.entry? id)) ∧
      s.writes = (successes [] calls).countP Write.isUpdate ∧
      (∀ job, NeverInserted calls job.id →
        s.apply (.update job) = (s, .error (missing job.id))) ∧
      (∀ c, (∀ job, c = .update job → ¬NeverInserted calls job.id) → (s.apply c).2 = .ok ()) ∧
      (∀ c id, c.id ≠ id → (s.apply c).1.view id = s.view id) ∧
      ∀ c d, c.id ≠ d.id →
        ((s.apply c).1.apply d).2 = (s.apply d).2 ∧
          ∀ later id, (replay (calls ++ c :: d :: later)).view id =
            (replay (calls ++ d :: c :: later)).view id := by
  intro s
  have h : Remembers s calls := remembers_replay calls
  -- one observation after the other; the last two are about the calls for other jobs
  refine ⟨fun id => ?_, fun id => ?_, h.history, h.transactions, h.writes, fun job hnever => ?_,
    fun c hc => ?_, fun c id hid => view_apply_of_ne s hid, fun c d hcd => ⟨?_, fun later id => ?_⟩⟩
  · cases hlast : lastWritten calls id <;> simp [read, s, h.job id, hlast]
  · rw [neverInserted_iff, ← h.inserted, read]
    cases s.get? id <;> simp
  · have htakes : s.takes (.update job) = false :=
      (h.takes_eq _).trans (neverInserted_iff.1 hnever)
    exact Prod.ext (apply_of_not_takes htakes) ((apply_snd s _).trans (by rw [htakes]; rfl))
  · have htakes : s.takes c = true := by
      rw [h.takes_eq]
      cases c with
      | update job => exact eq_true_of_ne_false (mt neverInserted_iff.2 (hc job rfl))
      | _ => rfl
    rw [apply_snd, htakes]
    rfl
  · rw [apply_snd, apply_snd, takes_congr (view_apply_of_ne s hcd)]
  · exact view_replay_swap calls later hcd id

/-- A new mock job with an identifier. -/
def sampleJob (id : Identifier) : Job :=
  .create id default default "owner" ⟨.mock, .mock, rfl⟩ .epoch

/-- An update that comes before its job fails and is not counted; a later one is what is read, and
what is written to the other job does not show. -/
theorem sample_replay_remembers :
    let job := sampleJob { toNat := 1 }
    let other := sampleJob { toNat := 2 }
    let done := { job with status := .done }
    let calls : List Write := [.update job, .insert job, .audit ⟨other.id, default, default,
      .ethereum, 1, "0x1", .primary, none, .epoch⟩, .update done]
    (replay calls).read job.id = .ok done ∧ (replay calls).writes = 1 ∧
      (replay calls).apply (.update other) = (replay calls, .error (missing other.id)) ∧
      ((replay calls).apply (.insert other)).1.view job.id = (replay calls).view job.id := by
  intro job other done calls
  obtain ⟨hread, -, -, -, hwrites, hrefused, -, hother, -⟩ := replay_remembers calls
  refine ⟨hread job.id, hwrites, hrefused other ?_, hother _ _ (by decide)⟩
  exact neverInserted_iff.2 rfl

end WalletTasks.Store
