import Mathlib.Data.List.Basic
import Mathlib.Logic.Function.Basic
import WalletTasks.Balances
import WalletTasks.Proofs.Rerun

/-!
# What a wallet is found to hold

Each token is asked for once, in the order in which the tokens are first named. What is listed then
depends on nothing but what the lookups end with: not on when they end, and not on tokens that are
named again.

* `Balances.asks_asked`: which tokens are asked for, and in which order.
* `Balances.startAll_eq`: what the lookups leave and end with, if none of them crashes.
* `Balances.fetch_balances`: the lookups in whatever order they end are listed in the order of the
  question.
* `Balances.fetch_gathers`: what is asked, what is listed, and what makes no difference.
-/

namespace WalletTasks

/-- What a service replies that does not crash. -/
def Reply.ofExcept {ε α : Type} : Except ε α → Reply ε α
  | .ok a => .value a
  | .error e => .error e

namespace Balances

/-- The tokens that are asked for are those that are named and the native one, each once, in the
order in which they are first seen. -/
structure Asks (tokens : List Token) (native : Token) (asked : List Token) : Prop where
  once : asked.Nodup
  mem_iff : ∀ t, t ∈ asked ↔ t ∈ tokens ∨ t = native
  first_seen : asked.Pairwise fun t u =>
    (tokens ++ [native]).idxOf t < (tokens ++ [native]).idxOf u
  native_last : native ∉ tokens → asked.getLast? = some native

/-- What is listed are the tokens that were found and are held, each with what was found, in the
order in which they were asked for. -/
structure Lists (asked : List Token) (outcome : Token → Except ChainError Balance)
    (balances : List TokenBalance) : Prop where
  in_order : (balances.map TokenBalance.token).Sublist asked
  mem_iff : ∀ b, b ∈ balances ↔
    b.token ∈ asked ∧ outcome b.token = .ok ⟨b.wei, b.human⟩ ∧ 0 < b.wei.toNat

/-! ## Which tokens are asked for -/

section

variable {seen tokens : List Token} {t native : Token}

/-- The tokens that are asked for are the given ones that have not been seen. -/
theorem mem_distinct : t ∈ distinct seen tokens ↔ t ∈ tokens ∧ t ∉ seen := by
  induction tokens generalizing seen with
  | nil => simp [distinct]
  | cons u us ih =>
    unfold distinct
    split
    · rename_i hu
      rw [ih, List.mem_cons]
      refine ⟨fun ⟨hmem, hnew⟩ => ⟨.inr hmem, hnew⟩, ?_⟩
      rintro ⟨rfl | hmem, hnew⟩
      · exact absurd hu hnew
      · exact ⟨hmem, hnew⟩
    · rename_i hu
      simp only [List.mem_cons, ih, not_or]
      refine ⟨?_, ?_⟩
      · rintro (rfl | ⟨hmem, -, hnew⟩)
        · exact ⟨.inl rfl, hu⟩
        · exact ⟨.inr hmem, hnew⟩
      · rintro ⟨hmem, hnew⟩
        by_cases htu : t = u
        · exact .inl htu
        · exact .inr ⟨hmem.resolve_left htu, htu, hnew⟩

theorem ne_of_mem_distinct {u : Token} (hu : u ∈ seen) (ht : t ∈ distinct seen tokens) : u ≠ t := by
  rintro rfl
  exact (mem_distinct.1 ht).2 hu

/-- Tokens stand in the order in which they first occur, and so no token stands there twice. -/
theorem distinct_first_seen :
    (distinct seen tokens).Pairwise fun t u => tokens.idxOf t < tokens.idxOf u := by
  induction tokens generalizing seen with
  | nil => simp [distinct]
  | cons u us ih =>
    -- Behind a token, whatever is still listed is another one and moves back by one place.
    have hbehind {seen : List Token} (hu : u ∈ seen) :
        (distinct seen us).Pairwise fun t v => (u :: us).idxOf t < (u :: us).idxOf v := by
      refine ih.imp_of_mem fun ht hv hlt => ?_
      rw [List.idxOf_cons_ne _ (ne_of_mem_distinct hu ht),
        List.idxOf_cons_ne _ (ne_of_mem_distinct hu hv)]
      exact Nat.succ_lt_succ hlt
    unfold distinct
    split
    · exact hbehind ‹_›
    · refine List.pairwise_cons.2 ⟨fun v hv => ?_, hbehind List.mem_cons_self⟩
      rw [List.idxOf_cons_self,
        List.idxOf_cons_ne _ (ne_of_mem_distinct List.mem_cons_self hv)]
      exact Nat.succ_pos _

/-- It only matters which tokens have been seen, not in which order. -/
theorem distinct_congr {seen' : List Token} (h : ∀ t, t ∈ seen ↔ t ∈ seen') :
    distinct seen tokens = distinct seen' tokens := by
  induction tokens generalizing seen seen' with
  | nil => rfl
  | cons u us ih =>
    have hcons : ∀ t, t ∈ u :: seen ↔ t ∈ u :: seen' := fun t => by simp only [List.mem_cons, h]
    simp only [distinct, h u, ih h, ih hcons]

/-- Tokens that come later are dropped if they came before. -/
theorem distinct_append (more : List Token) :
    distinct seen (tokens ++ more) = distinct seen tokens ++ distinct (tokens ++ seen) more := by
  induction tokens generalizing seen with
  | nil => rfl
  | cons u us ih =>
    -- seen before, or seen from here on
    by_cases hu : u ∈ seen
    · have hseen : distinct (us ++ seen) more = distinct (u :: us ++ seen) more :=
        distinct_congr fun t => by
          simp only [List.cons_append, List.mem_cons, List.mem_append]
          exact ⟨.inr, fun h => h.elim (fun heq => .inr (heq ▸ hu)) id⟩
      rw [List.cons_append, distinct, if_pos hu, ih, distinct, if_pos hu, hseen]
    · have hseen : distinct (us ++ u :: seen) more = distinct (u :: us ++ seen) more :=
        distinct_congr fun t => by
          simp only [List.cons_append, List.mem_cons, List.mem_append]
          exact or_left_comm
      rw [List.cons_append, distinct, if_neg hu, ih, distinct, if_neg hu, hseen]
      rfl

/-- The native token is asked for last, unless it is among the given ones. -/
theorem asked_eq : asked tokens native =
    distinct [] tokens ++ if native ∈ tokens then [] else [native] := by
  rw [asked, distinct_append, List.append_nil]
  rfl

/-- **Each token is asked for once, in the order in which they are first seen.** -/
theorem asks_asked (tokens : List Token) (native : Token) :
    Asks tokens native (asked tokens native) where
  once := distinct_first_seen.imp fun hlt heq => by simp [heq] at hlt
  mem_iff t := by simp [asked, mem_distinct]
  first_seen := distinct_first_seen
  native_last h := by rw [asked_eq, if_neg h, List.getLast?_append, List.getLast?_singleton]; rfl

/-- A token that is named again is not asked for again. -/
theorem asked_insert {named : List Token} (h : t ∈ named) (more : List Token) (native : Token) :
    asked (named ++ t :: more) native = asked (named ++ more) native := by
  have hskip (rest : List Token) : distinct named (t :: rest) = distinct named rest := by
    rw [distinct, if_pos h]
  rw [asked, asked, List.append_assoc, List.append_assoc, List.cons_append, distinct_append,
    distinct_append, List.append_nil, hskip]

end

/-! ## Lookups -/

section

variable {σ : Type} {s : Services σ} {client : Network} {address : String} {ts : List Token}
  {delay : Token → Nat} {outcome : Token → Except ChainError Balance}

/-- The state of the services once some tokens were asked for. -/
def afterLookups (s : Services σ) (client : Network) (address : String) (x : σ)
    (ts : List Token) : σ :=
  ts.foldl (fun x t => (s.respond (.balance client address t) x).1) x

/-- The services reply to the lookups of some tokens with their outcomes, after their delays, in the
state that the lookups before have left. -/
def Replies (s : Services σ) (client : Network) (address : String) (x : σ) (ts : List Token)
    (delay : Token → Nat) (outcome : Token → Except ChainError Balance) : Prop :=
  ∀ before t after, ts = before ++ t :: after →
    (s.respond (.balance client address t) (afterLookups s client address x before)).2 =
      ⟨delay t, .ofExcept (outcome t)⟩

/-- Replies to a list are a reply to the first lookup and replies to the others behind it. -/
theorem replies_cons {x : σ} {t : Token} :
    Replies s client address x (t :: ts) delay outcome ↔
      (s.respond (.balance client address t) x).2 = ⟨delay t, .ofExcept (outcome t)⟩ ∧
        Replies s client address (s.respond (.balance client address t) x).1 ts delay outcome := by
  refine ⟨fun h => ⟨h [] t ts rfl, ?_⟩, ?_⟩
  · rintro before u after rfl
    exact h (t :: before) u after rfl
  · rintro ⟨hfirst, hrest⟩ before u after heq
    cases before with
    | nil =>
      obtain ⟨rfl, -⟩ := List.cons.inj heq
      exact hfirst
    | cons v before =>
      obtain ⟨rfl, heq⟩ := List.cons.inj heq
      exact hrest before u after (by simpa using heq)

/-- Different tokens have each an outcome and a delay, if no lookup crashes. -/
theorem exists_replies
    (h : ∀ t x message, (s.respond (.balance client address t) x).2.reply ≠ .crash message)
    (hts : ts.Nodup) (x : σ) :
    ∃ delay outcome, Replies s client address x ts delay outcome := by
  induction ts generalizing x with
  | nil => exact ⟨fun _ => 0, fun _ => .ok default, fun before _ _ heq => by simp at heq⟩
  | cons t ts ih =>
    obtain ⟨hnew, hts⟩ := List.nodup_cons.1 hts
    obtain ⟨delay, outcome, hrest⟩ := ih hts (s.respond (.balance client address t) x).1
    obtain ⟨first, hfirst⟩ : ∃ first : Except ChainError Balance,
        (s.respond (.balance client address t) x).2.reply = .ofExcept first := by
      cases hreply : (s.respond (.balance client address t) x).2.reply with
      | value b => exact ⟨.ok b, rfl⟩
      | error e => exact ⟨.error e, rfl⟩
      | crash message => exact absurd hreply (h t x message)
    -- The token is not asked for again, so its outcome may be set apart from those of the others.
    refine ⟨Function.update delay t (s.respond (.balance client address t) x).2.delay,
      Function.update outcome t first, replies_cons.2 ⟨?_, ?_⟩⟩
    · rw [Function.update_self, Function.update_self, ← hfirst]
    · rintro before u after heq
      have hne : u ≠ t := by
        rintro rfl
        exact hnew (heq ▸ List.mem_append_right _ List.mem_cons_self)
      rw [Function.update_of_ne hne, Function.update_of_ne hne]
      exact hrest before u after heq

theorem startAll_cons (t : Token) (w : World σ) :
    startAll s client address (t :: ts) w =
      ((startAll s client address ts (start s client address t w).1).1,
        (start s client address t w).2 ::
          (startAll s client address ts (start s client address t w).1).2) := rfl

/-- **What the lookups of some tokens leave and end with.** -/
theorem startAll_eq {w : World σ} (h : Replies s client address w.outside ts delay outcome) :
    startAll s client address ts w =
      ({ w with
          outside := afterLookups s client address w.outside ts
          log := (ts.map fun t => .called w.now (.balance client address t)
            ⟨delay t, .ofExcept (outcome t)⟩).reverse ++ w.log },
        ts.map fun t => ⟨t, w.now + delay t, .ofExcept (outcome t)⟩) := by
  -- all lookups are started at the same time, in the order in which they are asked for
  induction ts generalizing w with
  | nil => rfl
  | cons t ts ih =>
    obtain ⟨hfirst, hrest⟩ := replies_cons.1 h
    have hstart : start s client address t w =
        ({ w with
            outside := (s.respond (.balance client address t) w.outside).1
            log := .called w.now (.balance client address t)
              ⟨delay t, .ofExcept (outcome t)⟩ :: w.log },
          ⟨t, w.now + delay t, .ofExcept (outcome t)⟩) := by
      simp [start, hfirst]
    rw [startAll_cons, hstart, ih hrest]
    simp [afterLookups]

/-- The lookups are those of the tokens, in order. -/
theorem startAll_tokens (ts : List Token) (w : World σ) :
    (startAll s client address ts w).2.map Lookup.token = ts := by
  induction ts generalizing w with
  | nil => rfl
  | cons t ts ih => simp [startAll, start, ih]

/-- Lookups are gathered in the order in which they were started. -/
theorem gather_eq {lookups : List Lookup} (hd : (lookups.map Lookup.token).Nodup) :
    gather (lookups.map Lookup.token) lookups = lookups.filterMap Lookup.found? := by
  rw [gather, List.filterMap_map]
  refine List.filterMap_congr fun l hl => ?_
  rw [Function.comp_apply, find?_key hd hl]
  rfl

/-- **The lookups are listed in the order of the question.** -/
theorem fetch_balances (s : Services σ) (client : Network) (address : String)
    (tokens : List Token) (w : World σ) :
    (fetch s client address tokens w).2 =
      (startAll s client address (asked tokens client.nativeToken) w).2.filterMap
        Lookup.found? := by
  have hd : ((startAll s client address (asked tokens client.nativeToken) w).2.map
      Lookup.token).Nodup := startAll_tokens _ w ▸ (asks_asked tokens client.nativeToken).once
  rw [← gather_eq hd, startAll_tokens]
  exact (gather_perm (List.mergeSort_perm _ _).symm hd _).symm

/-- The lookups leave the log that they have when all of them are started. -/
theorem fetch_log (s : Services σ) (client : Network) (address : String) (tokens : List Token)
    (w : World σ) :
    (fetch s client address tokens w).1.log =
      (startAll s client address (asked tokens client.nativeToken) w).1.log := by
  have hwaits (ended : List Lookup) (w : World σ) :
      (ended.foldl (fun w l => w.waitUntil l.ends) w).log = w.log := by
    induction ended generalizing w with
    | nil => rfl
    | cons l ls ih => exact ih (w.waitUntil l.ends)
  exact hwaits _ _

/-! ## What is listed -/

/-- A balance is listed for a lookup that succeeded and found something. -/
theorem found?_eq_some {t : Token} {ends : Nat} {o : Except ChainError Balance} {b : TokenBalance} :
    Lookup.found? ⟨t, ends, .ofExcept o⟩ = some b ↔
      b.token = t ∧ o = .ok ⟨b.wei, b.human⟩ ∧ 0 < b.wei.toNat := by
  -- a lookup that failed lists nothing, nor does one that found zero
  cases o with
  | error e => simp [Lookup.found?, Reply.ofExcept]
  | ok found =>
    simp only [Lookup.found?, Reply.ofExcept]
    split
    · rename_i hzero
      simp only [reduceCtorEq, false_iff, Except.ok.injEq]
      rintro ⟨-, rfl, hpos⟩
      exact absurd hzero (Nat.ne_of_gt hpos)
    · rename_i hheld
      simp only [Option.some.injEq, Except.ok.injEq]
      refine ⟨?_, ?_⟩
      · rintro rfl
        exact ⟨rfl, rfl, Nat.pos_of_ne_zero hheld⟩
      · rintro ⟨rfl, rfl, -⟩
        rfl

theorem found?_token {l : Lookup} {b : TokenBalance} (h : l.found? = some b) :
    b.token = l.token := by
  unfold Lookup.found? at h
  split at h
  · split at h
    · simp at h
    · rw [← Option.some.inj h]
  · simp at h

/-- Lookups that end with some outcomes are listed as these have it. -/
theorem lists_found (asked : List Token) (ends : Token → Nat)
    (outcome : Token → Except ChainError Balance) :
    Lists asked outcome
      ((asked.map fun t => Lookup.mk t (ends t) (.ofExcept (outcome t))).filterMap
        Lookup.found?) where
  in_order := by
    rw [List.filterMap_map]
    induction asked with
    | nil => simp
    | cons t ts ih =>
      rw [List.filterMap_cons]
      split
      · exact ih.cons t
      · rename_i b hb
        rw [List.map_cons, found?_token hb]
        exact ih.cons_cons t
  mem_iff b := by
    simp only [List.mem_filterMap, List.mem_map]
    refine ⟨?_, fun ⟨hasked, hfound⟩ => ⟨_, ⟨b.token, hasked, rfl⟩, found?_eq_some.2 ⟨rfl, hfound⟩⟩⟩
    rintro ⟨-, ⟨t, hasked, rfl⟩, hfound⟩
    obtain ⟨rfl, hfound⟩ := found?_eq_some.1 hfound
    exact ⟨hasked, hfound⟩

/-- Services that reply to lookups as others do, but after other delays. -/
def Retimes (s s' : Services σ) (client : Network) (address : String) : Prop :=
  ∀ t x,
    (s'.respond (.balance client address t) x).1 = (s.respond (.balance client address t) x).1 ∧
    (s'.respond (.balance client address t) x).2.reply =
      (s.respond (.balance client address t) x).2.reply

/-- What is found does not depend on when it is found. -/
theorem found_retimed {s' : Services σ} (h : Retimes s s' client address) {w w' : World σ}
    (hw : w'.outside = w.outside) :
    (startAll s' client address ts w').2.filterMap Lookup.found? =
      (startAll s client address ts w).2.filterMap Lookup.found? := by
  induction ts generalizing w w' with
  | nil => rfl
  | cons t ts ih =>
    obtain ⟨hstate, hreply⟩ := h t w.outside
    have houtside : (start s' client address t w').1.outside =
        (start s client address t w).1.outside := by simp only [start, hw, hstate]
    have hfirst : (start s' client address t w').2.found? =
        (start s client address t w).2.found? := by
      simp only [start, Lookup.found?, hw, hreply]
    rw [startAll_cons, startAll_cons, List.filterMap_cons, List.filterMap_cons, hfirst,
      ih houtside]

/-- **Each token is asked for once, and listed if it was found and is held, whenever that is and
however often the token is named.** -/
theorem fetch_gathers (s : Services σ) (client : Network) (address : String) (tokens : List Token)
    (w : World σ)
    (h : ∀ t x message, (s.respond (.balance client address t) x).2.reply ≠ .crash message) :
    let asked := asked tokens client.nativeToken
    let e := fetch s client address tokens w
    Asks tokens client.nativeToken asked ∧
      (∃ delay outcome, Replies s client address w.outside asked delay outcome ∧
        e.1.log = (asked.map fun t => .called w.now (.balance client address t)
          ⟨delay t, .ofExcept (outcome t)⟩).reverse ++ w.log ∧
        Lists asked outcome e.2) ∧
      (∀ ended, ended.Perm (startAll s client address asked w).2 → gather asked ended = e.2) ∧
      (∀ s', Retimes s s' client address → (fetch s' client address tokens w).2 = e.2) ∧
      ∀ named t more, tokens = named ++ more → t ∈ named →
        fetch s client address (named ++ t :: more) w = e := by
  intro asked e
  have hasks := asks_asked tokens client.nativeToken
  have hlisted := fetch_balances s client address tokens w
  -- what is asked and listed, the order of the ends, other delays, repetitions
  refine ⟨hasks, ?_, fun ended hended => ?_, fun s' hs' => ?_, ?_⟩
  · obtain ⟨delay, outcome, hreplies⟩ := exists_replies h hasks.once w.outside
    have hstarted := startAll_eq hreplies
    refine ⟨delay, outcome, hreplies, ?_, ?_⟩
    · exact (fetch_log s client address tokens w).trans (by rw [hstarted])
    · rw [hstarted] at hlisted
      exact hlisted ▸ lists_found asked (fun t => w.now + delay t) outcome
  · have hd : ((startAll s client address asked w).2.map Lookup.token).Nodup :=
      startAll_tokens _ w ▸ hasks.once
    have hgathered := gather_eq hd
    rw [startAll_tokens] at hgathered
    rw [gather_perm hended ((hended.map Lookup.token).nodup_iff.2 hd), hgathered]
    exact hlisted.symm
  · rw [fetch_balances, found_retimed hs' rfl]
    exact hlisted.symm
  · rintro named t more rfl ht
    simp only [e, fetch, asked_insert ht]

/-- Services whose lookups end with some outcomes after some delays. -/
def quoting (delay : Token → Nat) (outcome : Token → Except ChainError Balance) :
    Services Outlook :=
  { Services.willing with
    respond := fun
      | .balance _ _ t, x => (x, ⟨delay t, .ofExcept (outcome t)⟩)
      | c, x => Services.willing.respond c x }

/-- What is found of a token in the sample: the lookup of one fails, two are held, and none of any
other. -/
def sampleOutcome : Token → Except ChainError Balance
  | .usdc => .error (.rpc .binanceBnb "timeout")
  | .stg => .ok ⟨⟨7, by decide⟩, .one⟩
  | .bnb => .ok ⟨⟨3, by decide⟩, .one⟩
  | _ => .ok ⟨.zero, .zero⟩

/-- Of a token that is named twice and fails, one that is held, and one that is not, the held one is
listed, and the native token behind it, although its lookup is the first to end. -/
theorem sample_fetch_gathers :
    let s := quoting (fun t => if t = .bnb then 1 else 2) sampleOutcome
    let w : World Outlook := .seeded ⟨[], 0⟩ .sample
    let e := fetch s .binanceBnb "0xwallet" [.usdc, .stg, .usdc, .usdt] w
    asked [.usdc, .stg, .usdc, .usdt] .bnb = [.usdc, .stg, .usdt, .bnb] ∧ e.1.log.length = 4 ∧
      e.2 = [⟨.stg, ⟨7, by decide⟩, .one⟩, ⟨.bnb, ⟨3, by decide⟩, .one⟩] := by
  intro s w e
  have hreply (t : Token) (x : Outlook) (message : String) :
      (s.respond (.balance .binanceBnb "0xwallet" t) x).2.reply ≠ .crash message := by
    cases t <;> simp [s, quoting, sampleOutcome, Reply.ofExcept]
  obtain ⟨-, -, hlisted, -, hrepeats⟩ :=
    fetch_gathers s .binanceBnb "0xwallet" [.usdc, .stg, .usdt] w hreply
  have hrepeated := hrepeats [.usdc, .stg] .usdc [.usdt] rfl (by decide)
  obtain ⟨-, ⟨delay, outcome, -, hlog, -⟩, -⟩ :=
    fetch_gathers s .binanceBnb "0xwallet" [.usdc, .stg, .usdc, .usdt] w hreply
  refine ⟨by decide, ?_, ?_⟩
  · rw [hlog]
    rfl
  · exact (congrArg Prod.snd hrepeated).trans (hlisted _ (.refl _)).symm

end

end Balances

end WalletTasks
