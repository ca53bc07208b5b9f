import WalletTasks.Proofs.Interleaving

/-!
# No two runs of one job

However runs are interleaved, the table of leases holds exactly the runs that are under way, and at
most one of each job. A run that is refused has done nothing at all; a stop finds the run that is
under way and no other one; and a run begins without having been asked to stop.

* `runs_exclude`: the table behind any moves, and what the next move does to it.
-/

namespace WalletTasks

variable {σ : Type}

/-- What a move does to the runs that are under way and to their leases. -/
def Move.Respects (st st' : Traffic σ) : Move → Prop
  | start id => (∀ i ∈ st.live, i.id ≠ id) ∧
    st'.world.leases.entries = ⟨id, false⟩ :: st.world.leases.entries
  | refuse id result => (∃ i ∈ st.live, i.id = id) ∧ st' = st ∧
    result = .error (.error (.alreadyRunning id))
  | leave id => (∃ i ∈ st.live, i.id = id) ∧ st'.live = st.live.filter (·.id ≠ id) ∧
    st'.world.leases.entries = st.world.leases.entries.filter (·.id ≠ id)
  | stop id found => (found = true ↔ ∃ i ∈ st.live, i.id = id) ∧ st'.live = st.live ∧
    st'.world = { st.world with leases := st'.world.leases } ∧
    ∀ other, st'.world.leases.isCancelled other =
      (st.world.leases.isCancelled other || (decide (other = id) && found))
  | go _ | pass => st'.world.leases = st.world.leases

section

variable {s : Services σ} {registry : Registry} {st st' : Traffic σ} {m : Move}

/-- Each step of the runner takes a lease that is free, keeps its leases, or gives back its own. -/
theorem Takes.respects (h : st.Tidy) (htakes : Takes s registry st m st') :
    m.Respects st st' := by
  -- a lease is taken where a run starts, given back where it leaves, and nowhere else
  cases htakes with
  | @start w w' live user job leases phase hopen hacquire hopening =>
    obtain ⟨hfree, hentries⟩ := Leases.entries_of_acquire? hacquire
    refine ⟨?_, ?_⟩
    · intro i hi hid
      have hlive := h.isLive_iff.2 ⟨i, hi, hid⟩
      rw [hfree] at hlive
      cases hlive
    · have hleases := (Invocation.keepsTime_of_opening hopening).leases_eq
      exact (congrArg Leases.entries hleases).trans hentries
  | @refuse w w' live user job result hopen hacquire hrun =>
    have hbusy := Leases.acquire?_eq_none_iff.1 hacquire
    rw [(run_of_isLive registry user hopen hbusy).1] at hrun
    cases hrun
    exact ⟨h.isLive_iff.1 hbusy, rfl, rfl⟩
  | @go w w' before after i phase hnext =>
    exact (Invocation.keepsTime_of_next hnext).leases_eq
  | @leave w before after i =>
    exact ⟨⟨i, by simp, rfl⟩, (h.filter_eq rfl).symm, rfl⟩
  | @stop w live id =>
    exact ⟨h.isLive_iff, rfl, rfl, fun other => Leases.isCancelled_cancel⟩
  | pass => exact rfl

/-- **No two runs of one job.** Behind any moves from a world without runs, the table of leases
holds exactly the runs that are under way, at most one of each job. And the next move respects them:
a run begins only if there is none of its job, with a lease that is not cancelled; a run that is
refused leaves everything as it was; a run that leaves takes its own lease along and no other; and a
stop is answered according to whether there is a run, and cancels the lease of that run alone. -/
theorem runs_exclude {w : World σ} {moves : List Move}
    (h : Schedule s registry (.fresh w) moves st) :
    st.world.leases.entries.map Lease.id = st.live.map Invocation.id ∧
      (st.live.map Invocation.id).Nodup ∧
      ∀ m st', Takes s registry st m st' → m.Respects st st' :=
  have htidy := h.tidy (Traffic.tidy_fresh w)
  ⟨htidy.table, htidy.nodup, fun _ _ htakes => htakes.respects htidy⟩

end

/-- While the run of the sample job is under way it holds the one lease, another run is refused, and
a stop is for this run; when it has left, the next one may begin. -/
theorem sample_runs_exclude :
    let st := Traffic.begun
    st.world.leases.entries = [⟨default, false⟩] ∧
      (∀ m st', Takes .willing .standard st m st' → m.Respects st st') ∧
      Takes .willing .standard st (.refuse default (.error (.error (.alreadyRunning default)))) st ∧
      Takes .willing .standard st (.stop default true) ⟨st.world.stop default, st.live⟩ ∧
      ∃ st', Takes .willing .standard st (.leave default) st' ∧ st'.world.leases.entries = [] ∧
        Takes .willing .standard st' (.start default)
          (st'.enter .willing .standard .sample .sample) := by
  intro st
  obtain ⟨-, -, hrespects⟩ := runs_exclude schedule_begun
  have hrefused : run .willing .standard .sample .sample st.world =
      (st.world, .error (.error (.alreadyRunning default))) :=
    (run_of_isLive .standard .sample rfl rfl).1
  exact ⟨rfl, hrespects, .refuse rfl rfl hrefused, .stop default,
    ⟨st.world.release default, []⟩, .leave_front, rfl, .enter .sample .sample rfl rfl⟩

end WalletTasks
