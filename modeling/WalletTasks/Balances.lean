import WalletTasks.Run.World

/-!
# Balances of a wallet

The tokens of a wallet are looked up side by side, each once, and what was found is listed in the
order of the question, without the tokens that the wallet does not hold and those whose lookup
failed.

* `Balances.gather_perm`: the order in which the lookups end does not matter.
-/

namespace WalletTasks

/-- A token that a wallet holds. -/
structure TokenBalance where
  token : Token
  wei : Wei
  human : Decimal
deriving DecidableEq, Repr

namespace Balances

/-- The tokens that are looked up for a wallet when none are named. -/
def usualTokens : List Token :=
  [.usdt, .usdc, .eth, .stg, .weth, .lsd, .lusd, .mute, .mav, .space, .vc, .izi]

/-- The tokens that are not among `seen`, each once, in the order in which they first occur. -/
def distinct (seen : List Token) : List Token → List Token
  | [] => []
  | t :: ts => if t ∈ seen then distinct seen ts else t :: distinct (t :: seen) ts

/-- The tokens to look up: those that are named, and behind them the one that pays fees. -/
def asked (tokens : List Token) (native : Token) : List Token := distinct [] (tokens ++ [native])

/-- A lookup of a token that was started: when it ends, and with what. -/
structure Lookup where
  token : Token
  ends : Nat
  reply : Reply ChainError Balance

/-- What a lookup adds to the list: nothing if it finds no balance, or if it fails. A crash of one
lookup would end all of them; that is left out here, and such a lookup adds nothing either. -/
def Lookup.found? (l : Lookup) : Option TokenBalance :=
  match l.reply with
  | .value b => if b.wei.toNat = 0 then none else some ⟨l.token, b.wei, b.human⟩
  | _ => none

/-- The list for the tokens that were asked for, from the lookups as they ended. -/
def gather (tokens : List Token) (lookups : List Lookup) : List TokenBalance :=
  tokens.filterMap fun t => (lookups.find? fun l => l.token = t).bind Lookup.found?

end Balances

variable {σ : Type}

/-- Makes a call that nothing interrupts, and waits for its answer. -/
def World.request (s : Services σ) (c : Call) (w : World σ) : World σ × Except Fault c.Answer :=
  let (outside, response) := s.respond c w.outside
  let w := { w with outside, log := .called w.now c response :: w.log }
  let w := w.waitUntil (w.now + response.delay)
  match response.reply with
  | .value a => (w, .ok a)
  | .error e => (w, .error (.error (c.cause e)))
  | .crash message => (w, .error (.crash message))

/-- Goes on with the answer to a request, if there is one. -/
def whenAnswered {α β : Type} (r : World σ × Except Fault α)
    (f : α → World σ → World σ × Except Fault β) : World σ × Except Fault β :=
  match r with
  | (w, .ok a) => f a w
  | (w, .error e) => (w, .error e)

namespace Balances

/-- Starts the lookup of a token. -/
def start (s : Services σ) (client : Network) (address : String) (t : Token) (w : World σ) :
    World σ × Lookup :=
  let (outside, response) := s.respond (.balance client address t) w.outside
  ({ w with outside, log := .called w.now (.balance client address t) response :: w.log },
    ⟨t, w.now + response.delay, response.reply⟩)

/-- Starts a lookup for each token at the same moment. -/
def startAll (s : Services σ) (client : Network) (address : String) :
    List Token → World σ → World σ × List Lookup
  | [], w => (w, [])
  | t :: ts, w =>
    let (w, lookup) := start s client address t w
    let (w, lookups) := startAll s client address ts w
    (w, lookup :: lookups)

/-- The lookups in the order in which they end. -/
def byEnd (lookups : List Lookup) : List Lookup := lookups.mergeSort fun a b => a.ends ≤ b.ends

/-- What a wallet holds of some tokens and of the token that pays fees, once the last of the lookups
has ended. -/
def fetch (s : Services σ) (client : Network) (address : String) (tokens : List Token)
    (w : World σ) : World σ × List TokenBalance :=
  let tokens := asked tokens client.nativeToken
  let (w, lookups) := startAll s client address tokens w
  let ended := byEnd lookups
  (ended.foldl (fun w l => w.waitUntil l.ends) w, gather tokens ended)

/-- What the wallet of a profile holds on a network. -/
def ofProfile (s : Services σ) (id : Identifier) (network : Network)
    (tokens : Option (List Token)) (w : World σ) : World σ × Except Fault (List TokenBalance) :=
  whenAnswered (w.request s (.profile id)) fun (profile : Profile) w =>
  whenAnswered (w.request s (.networkSettings profile.userId network)) fun settings w =>
  whenAnswered (w.request s (.connect profile settings network)) fun (client : Network) w =>
  whenAnswered (w.request s (.walletAddress client)) fun address w =>
    let (w, balances) := fetch s client address (tokens.getD usualTokens) w
    (w, .ok balances)

/-- Of lookups for different tokens, the one for a token is found in any order. -/
theorem find?_perm {as bs : List Lookup} (h : as.Perm bs)
    (hd : (as.map Lookup.token).Nodup) (t : Token) :
    as.find? (fun l => l.token = t) = bs.find? fun l => l.token = t := by
  induction h with
  | nil => rfl
  | cons x _ ih =>
    rw [List.map_cons, List.nodup_cons] at hd
    simp only [List.find?_cons, ih hd.2]
  | swap x y l =>
    simp only [List.map_cons, List.nodup_cons, List.mem_cons, not_or] at hd
    have hne : y.token ≠ x.token := hd.1.1
    by_cases hx : x.token = t <;> by_cases hy : y.token = t
    · exact absurd (hy.trans hx.symm) hne
    · simp [hx, hy]
    · simp [hx, hy]
    · simp [hx, hy]
  | trans h₁ h₂ ih₁ ih₂ => exact (ih₁ hd).trans (ih₂ ((h₁.map Lookup.token).nodup_iff.1 hd))

theorem gather_perm {as bs : List Lookup} (h : as.Perm bs)
    (hd : (as.map Lookup.token).Nodup) (tokens : List Token) :
    gather tokens as = gather tokens bs := by
  unfold gather
  congr 1
  funext t
  rw [find?_perm h hd]

end Balances

end WalletTasks
