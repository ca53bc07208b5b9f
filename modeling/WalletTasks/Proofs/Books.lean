import WalletTasks.Proofs.Trace

/-!
# The books of a job

Three records are kept of what becomes of a job, each by a service of its own: the status it is
stored with, the history of its changes of status, and the charges sent for it. They agree if the
changes of status since some moment lead from the status that was stored then to the one that is
stored now, the history has an entry for each of them that it took, and those for which a charge is
owed have been charged.

* `Status.Links`, `Status.Leads`: filings, and the changes of status along them, lead from one
  status to another one.
* `Books.Agree.store`: storing the job once more keeps the books in agreement.
* `World.Stores.booksOf_eq`: what storing a job comes to in its books.
-/

namespace WalletTasks

variable {σ : Type}

/-! ## Changes of status -/

/-- Changes of status lead from one status to another one: each of them starts where the one before
it has ended, and ends elsewhere. -/
inductive Status.Leads : Status → List (Status × Status) → Status → Prop
  | nil (a : Status) : Leads a [] a
  | cons {a b c : Status} {moves : List (Status × Status)} (hne : a ≠ b) (h : Leads b moves c) :
    Leads a ((a, b) :: moves) c

def StatusChange.move (c : StatusChange) : Status × Status := (c.before, c.after)

/-- A job was stored: the status of the copy that it was written over, the status that was written,
and what the history took of it. -/
structure Filing where
  before : Status
  after : Status
  noted? : Option StatusChange
deriving DecidableEq, Repr

namespace Filing

/-- Whether the status is another one afterwards. -/
def isChange (f : Filing) : Bool := f.before ≠ f.after

theorem isChange_iff {f : Filing} : f.isChange = true ↔ f.before ≠ f.after := decide_eq_true_iff

def move (f : Filing) : Status × Status := (f.before, f.after)

/-- What the history took tells of the change, and so there is one. -/
def IsSound (f : Filing) : Prop := ∀ c, f.noted? = some c → c.move = f.move ∧ f.isChange = true

/-- The changes of status along some filings. -/
def moves (fs : List Filing) : List (Status × Status) := (fs.filter isChange).map move

/-- What the history took of some filings. -/
def entries (fs : List Filing) : List StatusChange := fs.filterMap noted?

variable {f : Filing} {fs fs' : List Filing}

theorem moves_append : moves (fs ++ fs') = moves fs ++ moves fs' := by
  simp [moves]

/-- Entries are filed one after the other. -/
theorem entries_append : entries (fs ++ fs') = entries fs ++ entries fs' := by
  simp [entries]

/-- A history that has taken every change has the changes in their order, and nothing else. -/
theorem entries_eq_moves (hsound : ∀ f ∈ fs, f.IsSound)
    (htaken : ∀ f ∈ fs, f.isChange = true → f.noted?.isSome = true) :
    (entries fs).map StatusChange.move = moves fs := by
  induction fs with
  | nil => rfl
  | cons f fs ih =>
    obtain ⟨hfirst, hrest⟩ := List.forall_mem_cons.1 hsound
    obtain ⟨htaken₁, htaken⟩ := List.forall_mem_cons.1 htaken
    have hsame := ih hrest htaken
    -- a filing without an entry is no change, since all changes have been noted
    cases hentry : f.noted? with
    | none =>
      have hunchanged : ¬f.isChange = true := by
        intro hchange
        have := htaken₁ hchange
        rw [hentry] at this
        cases this
      simp only [entries, List.filterMap_cons, hentry, moves] at hsame ⊢
      rwa [List.filter_cons_of_neg hunchanged]
    | some c =>
      obtain ⟨hmove, hchange⟩ := hfirst c hentry
      simp only [entries, List.filterMap_cons, hentry, moves] at hsame ⊢
      rw [List.filter_cons_of_pos hchange, List.map_cons, List.map_cons, hmove, hsame]

end Filing

/-- Filings link one status to another one: each of them is made over the status that the one before
it has written. -/
inductive Status.Links : Status → List Filing → Status → Prop
  | nil (a : Status) : Links a [] a
  | cons {f : Filing} {fs : List Filing} {c : Status} (h : Links f.after fs c) :
    Links f.before (f :: fs) c

namespace Status.Links

variable {a b c : Status} {fs fs' : List Filing}

/-- Changes that lead on from one another form one chain. -/
theorem append (h : Links a fs b) (h' : Links b fs' c) : Links a (fs ++ fs') c := by
  induction h with
  | nil => exact h'
  | cons _ ih => exact .cons (ih h')

/-- **The changes along linked filings lead** where the filings do. -/
theorem leads (h : Links a fs b) : Status.Leads a (Filing.moves fs) b := by
  induction h with
  | nil => exact .nil _
  | @cons f fs c _ ih =>
    unfold Filing.moves at ih ⊢
    by_cases hne : f.before = f.after
    · have hunchanged : ¬f.isChange = true := by simp [Filing.isChange_iff, hne]
      rw [List.filter_cons_of_neg hunchanged, hne]
      exact ih
    · have hchange : f.isChange = true := by simp [Filing.isChange_iff, hne]
      rw [List.filter_cons_of_pos hchange]
      exact .cons hne ih

/-- The status that filings end at was there at first, or one of them has written it. -/
theorem eq_or_mem (h : Links a fs b) : b = a ∨ b ∈ fs.map Filing.after := by
  induction h with
  | nil => exact .inl rfl
  | @cons f fs c _ ih =>
    refine .inr ?_
    rcases ih with rfl | hmem
    · exact List.mem_cons_self ..
    · exact List.mem_cons_of_mem _ hmem

/-- Every status that was written was there at first, or has been changed to. -/
theorem after_mem (h : Links a fs b) {f : Filing} (hf : f ∈ fs) :
    f.after = a ∨ f.after ∈ (Filing.moves fs).map Prod.snd := by
  induction h with
  | nil => cases hf
  | @cons g fs c _ ih =>
    have hgrows : ∀ st, st ∈ (Filing.moves fs).map Prod.snd →
        st ∈ (Filing.moves (g :: fs)).map Prod.snd := by
      intro st hst
      unfold Filing.moves at hst ⊢
      by_cases hchange : g.isChange = true
      · rw [List.filter_cons_of_pos hchange]
        exact List.mem_cons_of_mem _ hst
      · rwa [List.filter_cons_of_neg hchange]
    -- the first filing either changes the status or writes the one that was there
    have hfirst : g.after = g.before ∨ g.after ∈ (Filing.moves (g :: fs)).map Prod.snd := by
      by_cases hne : g.before = g.after
      · exact .inl hne.symm
      · refine .inr ?_
        have hchange : g.isChange = true := by simp [Filing.isChange_iff, hne]
        rw [Filing.moves, List.filter_cons_of_pos hchange]
        exact List.mem_cons_self ..
    rcases List.mem_cons.1 hf with rfl | hf
    · exact hfirst
    · rcases ih hf with heq | hmem
      · rw [heq]
        exact hfirst
      · exact .inr (hgrows _ hmem)

end Status.Links

namespace BillingPolicy

/-- The statuses that are charged along changes of status of a job. -/
def dues (p : BillingPolicy) (kind : Kind) (moves : List (Status × Status)) : List Status :=
  if p.isBillable kind then (moves.map Prod.snd).filter (· ≠ .done) else []

variable (p : BillingPolicy) (kind : Kind)

/-- What is due for changes one after the other is due for each of them. -/
theorem dues_append (moves moves' : List (Status × Status)) :
    p.dues kind (moves ++ moves') = p.dues kind moves ++ p.dues kind moves' := by
  unfold dues
  split
  · rw [List.map_append, List.filter_append]
  · rfl

/-- A single filing is charged for exactly if the policy owes a charge for it. -/
theorem dues_filing (f : Filing) :
    p.dues kind (Filing.moves [f]) =
      if p.chargeOwed f.before f.after kind then [f.after] else [] := by
  unfold dues Filing.moves chargeOwed
  by_cases h : f.before = f.after
  · simp [Filing.isChange, h]
  · cases p.isBillable kind <;> by_cases hd : f.after = .done <;>
      simp [Filing.isChange, Filing.move, h, hd]

end BillingPolicy

/-! ## Books -/

/-- What is kept of a job: the status that it is stored with, all statuses that it was stored with,
the history, and the charges. -/
structure Books where
  status : Option Status
  written : List Status
  history : List StatusChange
  charges : List Charge

/-- The status that a job was stored with. -/
def Event.written? (id : Identifier) : Event → Option Status
  | .updated job => if job.id = id then some job.status else none
  | _ => none

/-- A charge for a job. -/
def Event.chargeFor? (id : Identifier) : Event → Option Charge
  | .charged charge => if charge.jobId = id then some charge else none
  | _ => none

/-- The books of a job in a store and a log. -/
def booksOf (id : Identifier) (st : Store) (log : List Event) : Books where
  status := (st.get? id).map Job.status
  written := traceOf (Event.written? id) log
  history := st.historyOf id
  charges := traceOf (Event.chargeFor? id) log

/-- The books of a job in a world. -/
def World.books (w : World σ) (id : Identifier) : Books := booksOf id w.store w.log

namespace Books

/-- The change of status of a job is noted in the history. -/
def note (before : Status) (job : Job) (t : Instant) (b : Books) : Books :=
  { b with
    history :=
      if before = job.status then b.history
      else b.history ++ [⟨job.id, before, job.status, job.error, t⟩] }

/-- A job is written over its stored copy. -/
def write (job : Job) (b : Books) : Books :=
  { b with status := some job.status, written := b.written ++ [job.status] }

/-- A job is charged for if a charge is owed. -/
def charge (p : BillingPolicy) (login : String) (before : Status) (job : Job) (b : Books) : Books :=
  { b with
    charges := b.charges ++
      if p.chargeOwed before job.status job.task.kind then [.ofJob job login] else [] }

/-- A job is stored: noted, written and charged for. -/
def store (p : BillingPolicy) (login : String) (before : Status) (job : Job) (t : Instant)
    (b : Books) : Books :=
  ((b.note before job t).write job).charge p login before job

end Books

/-- The filing of a job where the history does not fail. -/
def Filing.ofJob (before : Status) (job : Job) (t : Instant) : Filing where
  before
  after := job.status
  noted? :=
    if before = job.status then none else some ⟨job.id, before, job.status, job.error, t⟩

theorem Filing.isSound_ofJob (before : Status) (job : Job) (t : Instant) :
    (ofJob before job t).IsSound := by
  intro c hc
  unfold ofJob at hc
  simp only at hc
  split at hc
  · cases hc
  · rename_i hne
    cases hc
    exact ⟨rfl, isChange_iff.2 hne⟩

/-- A filing whose history write succeeded has an entry. -/
theorem Filing.isSome_ofJob {before : Status} {job : Job} {t : Instant}
    (h : (ofJob before job t).isChange = true) : (ofJob before job t).noted?.isSome = true := by
  have hne : before ≠ job.status := isChange_iff.1 h
  simp [ofJob, hne]

namespace Books

/-- Books agree on how a job of a kind has been stored since an earlier state of them: each filing
was made over the status that was stored then, its status was written, the history has what it took
of it, and what is owed for the changes of status has been charged. -/
structure Agree (p : BillingPolicy) (kind : Kind) (b : Books) (fs : List Filing) (b' : Books) :
    Prop where
  status : ∃ before after, b.status = some before ∧ b'.status = some after ∧
    Status.Links before fs after
  written : b'.written = b.written ++ fs.map Filing.after
  sound : ∀ f ∈ fs, f.IsSound
  history : b'.history = b.history ++ Filing.entries fs
  charges : ∃ sent, b'.charges = b.charges ++ sent ∧
    sent.map Charge.status = p.dues kind (Filing.moves fs)

namespace Agree

variable {p : BillingPolicy} {kind : Kind} {b b' b'' : Books} {fs fs' : List Filing}
  {login : String} {before : Status} {job : Job} {t : Instant}

theorem refl (st : Status) (h : b.status = some st) : Agree p kind b [] b where
  status := ⟨st, st, h, h, .nil st⟩
  written := (List.append_nil _).symm
  sound := by simp
  history := (List.append_nil _).symm
  charges := ⟨[], by simp, by simp [BillingPolicy.dues, Filing.moves]⟩

/-- Agreement goes on from where it has come to. -/
theorem trans (h : Agree p kind b fs b') (h' : Agree p kind b' fs' b'') :
    Agree p kind b (fs ++ fs') b'' := by
  obtain ⟨before, middle, hbefore, hmiddle, hlinks⟩ := h.status
  obtain ⟨middle', after, hmiddle', hafter, hlinks'⟩ := h'.status
  obtain rfl : middle = middle' := Option.some.inj (hmiddle.symm.trans hmiddle')
  obtain ⟨sent, hcharges, hdues⟩ := h.charges
  obtain ⟨sent', hcharges', hdues'⟩ := h'.charges
  refine ⟨⟨before, after, hbefore, hafter, hlinks.append hlinks'⟩, ?_,
    List.forall_mem_append.2 ⟨h.sound, h'.sound⟩, ?_, ?_⟩
  · rw [h'.written, h.written, List.append_assoc, List.map_append]
  · rw [h'.history, h.history, List.append_assoc, Filing.entries_append]
  · refine ⟨sent ++ sent', by rw [hcharges', hcharges, List.append_assoc], ?_⟩
    rw [List.map_append, hdues, hdues', Filing.moves_append, BillingPolicy.dues_append]

/-- A job is stored, whatever the history took of it. -/
theorem of_write {f : Filing} (hkind : job.task.kind = kind) (hafter : f.after = job.status)
    (hstatus : b.status = some f.before) (hsound : f.IsSound) :
    Agree p kind b [f]
      ((({ b with history := b.history ++ f.noted?.toList } : Books).write job).charge p login
        f.before job) where
  status := ⟨f.before, f.after, hstatus, congrArg some hafter.symm, .cons (.nil f.after)⟩
  written := by rw [List.map_singleton, hafter]; rfl
  sound := by simpa using hsound
  history := by
    cases hentry : f.noted? <;> simp [charge, write, Filing.entries, hentry]
  charges := by
    refine ⟨if p.chargeOwed f.before job.status job.task.kind then [.ofJob job login] else [], rfl,
      ?_⟩
    rw [BillingPolicy.dues_filing, hkind, hafter]
    split <;> rfl

/-- **Storing a job** keeps its books in agreement. -/
theorem store (h : Agree p kind b fs b') (hkind : job.task.kind = kind)
    (hstatus : b'.status = some before) :
    Agree p kind b (fs ++ [.ofJob before job t]) (b'.store p login before job t) := by
  have hnote : b'.note before job t =
      { b' with history := b'.history ++ (Filing.ofJob before job t).noted?.toList } := by
    unfold note Filing.ofJob
    split <;> simp [*]
  refine h.trans ?_
  rw [Books.store, hnote]
  exact of_write hkind rfl hstatus (Filing.isSound_ofJob before job t)

end Agree

end Books

/-! ## What storing a job comes to -/

section

variable {s : Services σ} {login : String} {stored job held : Job} {t t₁ t₂ : Instant}
  {w w' : World σ} {id : Identifier} {st : Store} {log : List Event}

theorem booksOf_noted (before : Status) :
    booksOf job.id (st.noted before job t) log = (booksOf job.id st log).note before job t := by
  unfold booksOf Books.note Store.noted
  by_cases h : before = job.status
  · simp [h]
  · simp only [h, if_false, Store.historyOf, Store.record]
    simp [Store.get?]

theorem booksOf_overwritten (job : Job) :
    booksOf job.id (st.overwritten job) (.updated job :: log) =
      (booksOf job.id st log).write job := by
  simp only [booksOf, Books.write, Store.get?_overwritten, if_true, traceOf_cons, Event.written?,
    Event.chargeFor?, Option.map_some, Option.toList_some, Option.toList_none, List.append_nil]
  rfl

/-- Charging for a job enters a charge into its books if one is owed, and nothing else. -/
theorem booksOf_chargeEvents (p : BillingPolicy) (before : Status) :
    booksOf job.id st (p.chargeEvents login before job ++ log) =
      (booksOf job.id st log).charge p login before job := by
  unfold booksOf Books.charge BillingPolicy.chargeEvents
  split <;> simp [Event.written?, Event.chargeFor?, Charge.ofJob]

/-- A write of another job is not in the books. -/
theorem booksOf_overwritten_of_ne (job : Job) (hid : job.id ≠ id) :
    booksOf id (st.overwritten job) (.updated job :: log) = booksOf id st log := by
  simp only [booksOf, Store.get?_overwritten, if_neg hid, traceOf_cons, Event.written?,
    Event.chargeFor?, Option.toList_none, List.append_nil]
  rfl

theorem booksOf_chargeEvents_of_ne (p : BillingPolicy) (before : Status) (job : Job)
    (hid : job.id ≠ id) :
    booksOf id st (p.chargeEvents login before job ++ log) = booksOf id st log := by
  unfold booksOf BillingPolicy.chargeEvents
  split <;> simp [Event.written?, Event.chargeFor?, Charge.ofJob, hid]

theorem World.Stores.booksOf_eq (h : Stores s login stored job t₁ t₂ w w') :
    booksOf job.id w'.store w'.log =
      (booksOf job.id w.store w.log).store s.billing login stored.status job t₁ :=
  -- the time of the write and the description of the task are not in the books
  calc booksOf job.id w'.store w'.log
    _ = booksOf (job.stamped t₂).id
          ((w.store.noted stored.status job t₁).overwritten (job.stamped t₂))
          (s.billing.chargeEvents login stored.status (job.stamped t₂) ++
            .updated (job.stamped t₂) :: w.log) := by
      rw [h.store_eq, h.log_eq]
      rfl
    _ = ((booksOf job.id (w.store.noted stored.status job t₁) w.log).write job).charge s.billing
          login stored.status job := by
      rw [booksOf_chargeEvents, booksOf_overwritten]
      rfl
    _ = (booksOf job.id w.store w.log).store s.billing login stored.status job t₁ := by
      rw [booksOf_noted]
      rfl

/-- The books of a job whose storing may have been cut off. -/
theorem World.Storing.books_eq (h : Storing s login stored job w w' held) :
    ∃ t, w'.books job.id = w.books job.id ∨
      w'.books job.id = (w.books job.id).note stored.status job t ∨
      w'.books job.id = ((w.books job.id).note stored.status job t).write job ∨
      w'.books job.id = (w.books job.id).store s.billing login stored.status job t := by
  unfold books
  cases h with
  | unwritten t hstore hlog =>
    refine ⟨t, ?_⟩
    rcases hstore with hstore | hstore
    · exact .inl (by rw [hstore, hlog])
    · exact .inr (.inl (by rw [hstore, hlog, booksOf_noted]))
  | written t₁ t₂ hstore hlog =>
    refine ⟨t₁, .inr (.inr ?_)⟩
    rcases hlog with hlog | hlog
    · refine .inl ?_
      rw [hstore, hlog, ← booksOf_noted]
      exact booksOf_overwritten (job.stamped t₂)
    · exact .inr (Stores.booksOf_eq ⟨hstore, hlog⟩)

end

end WalletTasks
