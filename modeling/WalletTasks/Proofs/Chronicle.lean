import WalletTasks.Proofs.Conclusion

/-!
# What is left of a job once the times are left out

The chronicle of a job is everything that stays behind its runs and does not depend on when they
took place: the stored record, the submissions, the history, the transactions written for audit, and
the charges. It is followed step by step: what storing the job and what an audit entry make of it is
known from the job alone.

* `Job.timeless`: a job without the times that a run puts into it.
* `World.Stores.chronicle`: what storing a job makes of the chronicle.
-/

namespace WalletTasks

variable {σ : Type}

/-! ## Without times -/

def Footprint.timeless (f : Footprint) : Footprint := { f with submittedAt := default }

/-- The payload with the time of submission left out. -/
def Payload.timeless : Payload → Payload
  | chain action footprint => chain action (footprint.map Footprint.timeless)
  | p => p

theorem Payload.shape_timeless (p : Payload) : p.timeless.shape = p.shape := by
  cases p <;> rfl

/-- The job with its description and all times of runs left out. -/
def Job.bare (job : Job) : Job :=
  { job.mapPayload .timeless Payload.shape_timeless with description := "", updatedAt := default }

/-- The job with the description of its task. -/
def Job.described (job : Job) : Job := { job with description := Wire.describe job.task }

/-- Whether the description is that of the task. -/
def Job.IsDescribed (job : Job) : Prop := job.description = Wire.describe job.task

instance (job : Job) : Decidable job.IsDescribed :=
  inferInstanceAs (Decidable (job.description = Wire.describe job.task))

/-- The job with all times of runs left out. A description of the task is one of the task without
its times; any other stays. -/
def Job.timeless (job : Job) : Job :=
  if job.IsDescribed then job.bare.described
  else { job.bare with description := job.description }

def StatusChange.timeless (c : StatusChange) : StatusChange := { c with time := default }

def AuditEntry.timeless (e : AuditEntry) : AuditEntry := { e with recordedAt := default }

section

variable (job : Job) (t : Instant)

theorem Job.isDescribed_stamped : (job.stamped t).IsDescribed := rfl

@[simp] theorem Job.bare_stamped : (job.stamped t).bare = job.bare := rfl

@[simp] theorem Job.bare_running : job.running.bare = job.bare.running := rfl

@[simp] theorem Job.bare_done : job.done.bare = job.bare.done := rfl

@[simp] theorem Job.bare_cleared : job.cleared.bare = job.bare.cleared := rfl

@[simp] theorem Job.bare_failed (e : TaskError) : (job.failed e).bare = job.bare.failed e := rfl

/-- A described job is its bare part with the description of its task. -/
theorem Job.timeless_of_isDescribed (h : job.IsDescribed) : job.timeless = job.bare.described :=
  if_pos h

/-- The job with a footprint. -/
def Job.submitted (f : Footprint) : Job :=
  job.mapPayload (.withFootprint f) (Payload.shape_withFootprint f)

theorem Payload.timeless_withFootprint (f : Footprint) (p : Payload) :
    (p.withFootprint f).timeless = p.timeless.withFootprint f.timeless := by
  cases p <;> rfl

theorem Payload.timeless_complete (p : Payload) : p.complete.timeless = p.timeless.complete := by
  cases p with
  | chain action footprint => cases footprint <;> rfl
  | _ => rfl

@[simp] theorem Job.bare_submitted (f : Footprint) :
    (job.submitted f).bare = job.bare.submitted f.timeless := by
  simp only [Job.bare, Job.submitted, Job.mapPayload, Payload.timeless_withFootprint]

@[simp] theorem Job.bare_confirmed : job.confirmed.bare = job.bare.confirmed := by
  simp only [Job.bare, Job.confirmed, Job.mapPayload, Payload.timeless_complete]

end

/-! ## The chronicle -/

/-- What is left of a job but for the times: its record, all submissions and charges so far, and the
history and the transactions of the job. -/
structure Chronicle where
  record : Option Job
  requests : List (Network × SubmitRequest)
  history : List StatusChange
  transactions : List AuditEntry
  charges : List Charge

/-- The chronicle of a job in a store and a log. -/
def chronicleOf (id : Identifier) (st : Store) (log : List Event) : Chronicle where
  record := (st.get? id).map Job.timeless
  requests := traceOf Event.request? log
  history := (st.historyOf id).map StatusChange.timeless
  transactions := (st.transactionsOf id).map AuditEntry.timeless
  charges := traceOf Event.charge? log

def World.chronicle (w : World σ) (id : Identifier) : Chronicle := chronicleOf id w.store w.log

namespace Chronicle

/-- What storing a job over a record of status `before` makes of the chronicle. The job comes
without times. -/
def persist (p : BillingPolicy) (login : String) (before : Status) (job : Job) (c : Chronicle) :
    Chronicle :=
  { c with
    record := some job.described
    history :=
      if before = job.status then c.history
      else c.history ++ [⟨job.id, before, job.status, job.error, default⟩]
    charges := c.charges ++ traceOf Event.charge? (p.chargeEvents login before job) }

/-- What writing a transaction for audit makes of the chronicle. -/
def audit (entry : AuditEntry) (c : Chronicle) : Chronicle :=
  { c with transactions := c.transactions ++ [entry.timeless] }

/-- What submitting an action makes of the chronicle. -/
def submit (requests : List (Network × SubmitRequest)) (c : Chronicle) : Chronicle :=
  { c with requests := c.requests ++ requests }

theorem submit_nil (c : Chronicle) : c.submit [] = c := by
  unfold submit
  rw [List.append_nil]

/-- Storing a job as it is stored changes nothing. -/
theorem persist_self (p : BillingPolicy) (login : String) {job : Job} {c : Chronicle}
    (h : c.record = some job.described) : c.persist p login job.status job = c := by
  unfold persist
  rw [if_pos rfl, ← h]
  have hcharge : traceOf Event.charge? (p.chargeEvents login job.status job) = [] := by
    unfold BillingPolicy.chargeEvents
    rw [BillingPolicy.chargeOwed_self]
    rfl
  rw [hcharge, List.append_nil]

end Chronicle

section

variable {s : Services σ} {login : String} {stored job : Job} {t₁ t₂ : Instant} {w w' : World σ}

theorem Store.historyOf_overwritten (st : Store) (id : Identifier) :
    (st.overwritten job).historyOf id = st.historyOf id := rfl

/-- An entry is noted only for a change. -/
theorem Store.historyOf_noted (st : Store) (before : Status) (t : Instant) :
    (st.noted before job t).historyOf job.id =
      if before = job.status then st.historyOf job.id
      else st.historyOf job.id ++ [⟨job.id, before, job.status, job.error, t⟩] := by
  unfold Store.noted
  split
  · rfl
  · simp [Store.historyOf, Store.record]

/-- Storing a job leaves the audit list as it is. -/
theorem Store.transactionsOf_stored (st : Store) (before : Status) (held : Job) (t : Instant)
    (id : Identifier) :
    ((st.noted before job t).overwritten held).transactionsOf id = st.transactionsOf id := by
  unfold Store.noted
  split <;> rfl

/-- A write of the job, seen in the chronicle, does not depend on when it was made. -/
theorem World.Stores.chronicle (h : World.Stores s login stored job t₁ t₂ w w') :
    w'.chronicle job.id = (w.chronicle job.id).persist s.billing login stored.status job.bare := by
  have hrecord : (w'.store.get? job.id).map Job.timeless = some job.bare.described := by
    rw [h.get?, Option.map_some, Job.timeless_of_isDescribed _ (job.isDescribed_stamped t₂),
      Job.bare_stamped]
  have hcharges : traceOf Event.charge? w'.log = traceOf Event.charge? w.log ++
      traceOf Event.charge? (s.billing.chargeEvents login stored.status job.bare) := by
    rw [h.log_eq, traceOf_append, traceOf_cons]
    simp [Event.charge?]
    rfl
  -- the history compares with the stored status, which the bare job does not have
  have hhistory : (w'.store.historyOf job.id).map StatusChange.timeless =
      if stored.status = job.bare.status then (w.store.historyOf job.id).map StatusChange.timeless
      else (w.store.historyOf job.id).map StatusChange.timeless ++
        [⟨job.bare.id, stored.status, job.bare.status, job.bare.error, default⟩] := by
    rw [h.store_eq, Store.historyOf_overwritten, Store.historyOf_noted]
    show List.map _ (if stored.status = job.status then _ else _) =
      if stored.status = job.status then _ else _
    split
    · rfl
    · rw [List.map_append]
      rfl
  have hrequests := h.traceOf_eq Event.request?_notOfStoring
  have htransactions : w'.store.transactionsOf job.id = w.store.transactionsOf job.id := by
    rw [h.store_eq, Store.transactionsOf_stored]
  unfold World.chronicle chronicleOf Chronicle.persist
  rw [hrecord, hcharges, hhistory, hrequests, htransactions]

/-- The chronicle is read from the store and the log. -/
theorem World.chronicle_congr (id : Identifier) (hstore : w'.store = w.store)
    (hlog : w'.log = w.log) : w'.chronicle id = w.chronicle id := by
  unfold World.chronicle
  rw [hstore, hlog]

/-- Events that charge nothing add their submissions. -/
theorem World.chronicle_submit {events : List Event} {requests : List (Network × SubmitRequest)}
    (id : Identifier) (hstore : w'.store = w.store) (hlog : w'.log = events ++ w.log)
    (hrequest : traceOf Event.request? events = requests)
    (hcharge : traceOf Event.charge? events = []) :
    w'.chronicle id = (w.chronicle id).submit requests := by
  unfold World.chronicle chronicleOf Chronicle.submit
  rw [hstore, hlog, traceOf_append, traceOf_append, hrequest, hcharge, List.append_nil]

/-- What is neither submitted nor charged is not in the chronicle. -/
theorem World.chronicle_quiet {events : List Event} (id : Identifier) (hstore : w'.store = w.store)
    (hlog : w'.log = events ++ w.log) (hrequest : traceOf Event.request? events = [])
    (hcharge : traceOf Event.charge? events = []) : w'.chronicle id = w.chronicle id := by
  rw [World.chronicle_submit id hstore hlog hrequest hcharge, Chronicle.submit_nil]

theorem World.chronicle_audit {entry : AuditEntry} {id : Identifier} (hid : entry.jobId = id)
    (hstore : w'.store = w.store.audit entry) (hlog : w'.log = w.log) :
    w'.chronicle id = (w.chronicle id).audit entry := by
  unfold World.chronicle chronicleOf Chronicle.audit
  rw [hstore, hlog]
  simp [Store.transactionsOf, Store.audit, hid, Store.historyOf, Store.get?]

end

end WalletTasks
