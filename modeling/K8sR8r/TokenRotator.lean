import Mathlib.Algebra.Order.Ring.Unbundled.Rat
import Mathlib.Tactic

/-!
# Token rotation

`internal/cluster/token.go`: the `Rotator` that hands out configs with a
short-lived token for one spoke.  It mints a new token when the one it holds
has used up a fraction of its lifetime, authenticated by that token while it is
valid and by the admin credential otherwise.

Times are integers and the refresh fraction is a rational.  The minter is
whatever answers at the time of the call, so it is part of the call.
-/

namespace K8sR8r

/-! ## Configs -/

/-- The parts of `rest.Config` that matter here: how to reach the spoke, the
bearer token, and all other authentication material. -/
structure RestConfig where
  host : String
  tls : String
  bearerToken : String
  credentials : List String
  deriving DecidableEq

/-- `rest.AnonymousClientConfig`. -/
def anonymousClientConfig (config : RestConfig) : RestConfig :=
  { config with bearerToken := "", credentials := [] }

/-- Everything in a config that authenticates its user. -/
def RestConfig.secrets (config : RestConfig) : List String :=
  if config.bearerToken = "" then config.credentials
  else config.bearerToken :: config.credentials

theorem mem_secrets_anonymous {config : RestConfig} {token secret : String}
    (hmem : secret ∈ RestConfig.secrets
      { anonymousClientConfig config with bearerToken := token }) :
    secret = token := by
  unfold RestConfig.secrets at hmem
  split_ifs at hmem with hempty
  · simp [anonymousClientConfig] at hmem
  · simpa [anonymousClientConfig] using hmem

/-! ## The rotator -/

/-- The fraction of a lifetime after which a token is replaced. -/
structure RefreshFraction where
  value : ℚ
  pos : 0 < value
  le_one : value ≤ 1

/-- `time.Duration(float64(lifetime) * fraction)`: rounded toward zero. -/
def RefreshFraction.scale (fraction : RefreshFraction) (lifetime : Int) : Int :=
  (lifetime * fraction.value.num).tdiv fraction.value.den

abbrev Minter := RestConfig → Int → Except String (String × Int)

structure Rotator where
  base : RestConfig
  bootstrap : Option RestConfig
  ttl : Int
  refreshFraction : RefreshFraction
  token : String
  issuedAt : Int
  expiresAt : Int

/-- A config with which the minter was called, and its answer. -/
structure MintAttempt where
  handed : RestConfig
  answer : Except String (String × Int)
  deriving DecidableEq

structure Refresh where
  outcome : Except String Unit
  attempt : Option MintAttempt
  rotator : Rotator

/-- A call of `Config` or a tick of `Run`: the reading of the clock with which
it checks the deadline, the one with which it mints, and the minter. -/
structure RotatorTurn where
  check : Int
  mint : Int
  minter : Minter

def spokeNamespace : String := "k8s-r8r-system"
def serviceAccountName : String := "k8s-r8r"

def newRotator (base : RestConfig) (bootstrap : Option RestConfig) (ttl : Int)
    (fraction : RefreshFraction) : Rotator where
  base := anonymousClientConfig base
  bootstrap := bootstrap
  ttl := ttl
  refreshFraction := fraction
  token := ""
  issuedAt := 0
  expiresAt := 0

namespace Rotator

def tokenConfig (r : Rotator) : RestConfig :=
  { r.base with bearerToken := r.token }

def refreshDeadlineLocked (r : Rotator) (now : Int) : Int :=
  if r.token = "" then now
  else r.issuedAt + r.refreshFraction.scale (r.expiresAt - r.issuedAt)

def needsRefreshLocked (r : Rotator) (now : Int) : Bool :=
  r.token = "" || !(now < r.refreshDeadlineLocked now)

def mintConfig (r : Rotator) (now : Int) : Except String RestConfig :=
  if r.token ≠ "" ∧ now < r.expiresAt then .ok r.tokenConfig
  else
    match r.bootstrap with
    | some config => .ok config
    | none =>
      .error ("cluster: token for " ++ spokeNamespace ++ "/" ++ serviceAccountName ++
        " expired and no bootstrap credential available")

def refreshLocked (r : Rotator) (minter : Minter) (now : Int) : Refresh :=
  match r.mintConfig now with
  | .error problem => ⟨.error problem, none, r⟩
  | .ok config =>
    match minter config r.ttl with
    | .error problem =>
      { outcome := .error ("cluster: refreshing token for " ++
          spokeNamespace ++ "/" ++ serviceAccountName ++ ": " ++ problem)
        attempt := some ⟨config, .error problem⟩
        rotator := r }
    | .ok (token, expiresAt) =>
      { outcome := .ok ()
        attempt := some ⟨config, .ok (token, expiresAt)⟩
        rotator :=
          { r with
            token := token
            issuedAt := now
            expiresAt := expiresAt } }

/-- What `Config` and each tick of `Run` do first. -/
def refresh (r : Rotator) (turn : RotatorTurn) : Refresh :=
  if r.needsRefreshLocked turn.check then
    r.refreshLocked turn.minter turn.mint
  else ⟨.ok (), none, r⟩

/-- `Rotator.Config`. -/
def config (r : Rotator) (turn : RotatorTurn) : Except String RestConfig :=
  match (r.refresh turn).outcome with
  | .error problem => .error problem
  | .ok _ => .ok (r.refresh turn).rotator.tokenConfig

def after (r : Rotator) (turns : List RotatorTurn) : Rotator :=
  turns.foldl (fun r turn => (r.refresh turn).rotator) r

def minted (r : Rotator) (turn : RotatorTurn) : Option (String × Int) :=
  (r.refresh turn).attempt.bind fun attempt => attempt.answer.toOption

def issued : Rotator → List RotatorTurn → List (String × Int)
  | _, [] => []
  | r, turn :: turns =>
    (r.minted turn).toList ++ (r.refresh turn).rotator.issued turns

def readings (r : Rotator) (turn : RotatorTurn) : List Int :=
  if r.needsRefreshLocked turn.check then [turn.check, turn.mint]
  else [turn.check]

end Rotator

/-- The clock does not go back during the turn, and what is minted in it is a
token that has not expired. -/
structure RotatorTurn.Sound (turn : RotatorTurn) : Prop where
  clock : turn.check ≤ turn.mint
  fresh : ∀ config ttl token expiry,
    turn.minter config ttl = .ok (token, expiry) →
      token ≠ "" ∧ turn.mint < expiry

/-! ## The deadline -/

theorem RefreshFraction.scale_le (fraction : RefreshFraction) {lifetime : Int}
    (hlife : 0 ≤ lifetime) :
    fraction.scale lifetime ≤ lifetime := by
  have hnum : fraction.value.num ≤ fraction.value.den :=
    Rat.num_le_denom_iff.mpr fraction.le_one
  have hpos : 0 ≤ fraction.value.num :=
    Rat.num_nonneg.mpr fraction.pos.le
  unfold RefreshFraction.scale
  rw [Int.tdiv_eq_ediv_of_nonneg (Int.mul_nonneg hlife hpos)]
  calc lifetime * fraction.value.num / fraction.value.den
      ≤ lifetime * fraction.value.den / fraction.value.den := by
        apply Int.ediv_le_ediv (by exact_mod_cast fraction.value.den_pos)
        exact Int.mul_le_mul_of_nonneg_left hnum hlife
    _ = lifetime := by
        apply Int.mul_ediv_cancel
        exact_mod_cast fraction.value.den_ne_zero

namespace Rotator

variable {r : Rotator} {turn : RotatorTurn}

/-- A token that is held was minted before it expired. -/
def Holds (r : Rotator) : Prop :=
  r.token ≠ "" → r.issuedAt < r.expiresAt

theorem Holds.deadline_le (holds : r.Holds) (htoken : r.token ≠ "") (now : Int) :
    r.refreshDeadlineLocked now ≤ r.expiresAt := by
  have hlife := holds htoken
  have hscale := r.refreshFraction.scale_le (show 0 ≤ r.expiresAt - r.issuedAt by omega)
  unfold refreshDeadlineLocked
  rw [if_neg htoken]
  omega

theorem needsRefreshLocked_eq_false {now : Int} :
    r.needsRefreshLocked now = false ↔ r.token ≠ "" ∧ now < r.refreshDeadlineLocked now := by
  simp [needsRefreshLocked]

/-! ## One turn -/

/-- What a refresh can do: nothing, fail without a credential, fail with the
minter, or mint. -/
theorem refresh_cases (r : Rotator) (turn : RotatorTurn) :
    (r.needsRefreshLocked turn.check = false ∧ r.refresh turn = ⟨.ok (), none, r⟩) ∨
    (r.needsRefreshLocked turn.check = true ∧ ∃ problem, r.mintConfig turn.mint = .error problem ∧
      r.refresh turn = ⟨.error problem, none, r⟩) ∨
    (r.needsRefreshLocked turn.check = true ∧ ∃ config problem text,
      r.mintConfig turn.mint = .ok config ∧
      turn.minter config r.ttl = .error problem ∧
      r.refresh turn = ⟨.error text, some ⟨config, .error problem⟩, r⟩) ∨
    (r.needsRefreshLocked turn.check = true ∧ ∃ config token expiry,
      r.mintConfig turn.mint = .ok config ∧
      turn.minter config r.ttl = .ok (token, expiry) ∧
      r.refresh turn = ⟨.ok (), some ⟨config, .ok (token, expiry)⟩,
          { r with
            token := token
            issuedAt := turn.mint
            expiresAt := expiry }⟩) := by
  unfold refresh refreshLocked
  cases hneeds : r.needsRefreshLocked turn.check with
  | false => simp
  | true =>
    cases hconfig : r.mintConfig turn.mint with
    | error problem => simp
    | ok config =>
      cases hminter : turn.minter config r.ttl with
      | error problem => simp [hminter]
      | ok minted => simp [hminter]

theorem mintConfig_eq_ok {now : Int} {config : RestConfig}
    (hconfig : r.mintConfig now = .ok config) :
    (config = r.tokenConfig ∧ r.token ≠ "" ∧ now < r.expiresAt) ∨
      (r.bootstrap = some config ∧ (r.token = "" ∨ r.expiresAt ≤ now)) := by
  unfold mintConfig at hconfig
  split_ifs at hconfig with hvalid
  · cases hconfig
    exact .inl ⟨rfl, hvalid⟩
  · cases hboot : r.bootstrap with
    | none => simp [hboot] at hconfig
    | some admin =>
      simp only [hboot, Except.ok.injEq] at hconfig
      subst config
      refine .inr ⟨rfl, ?_⟩
      by_cases htoken : r.token = ""
      · exact .inl htoken
      · exact .inr (not_lt.mp fun hlt => hvalid ⟨htoken, hlt⟩)

theorem refresh_settings (r : Rotator) (turn : RotatorTurn) :
    (r.refresh turn).rotator.base = r.base ∧ (r.refresh turn).rotator.bootstrap = r.bootstrap ∧
      (r.refresh turn).rotator.ttl = r.ttl ∧
      (r.refresh turn).rotator.refreshFraction = r.refreshFraction := by
  rcases r.refresh_cases turn with ⟨_, heq⟩ | ⟨_, _, _, heq⟩ |
    ⟨_, _, _, _, _, _, heq⟩ | ⟨_, _, _, _, _, _, heq⟩ <;>
  simp [heq]

theorem refresh_rotator_of_minted_none (hnone : r.minted turn = none) :
    (r.refresh turn).rotator = r := by
  unfold minted at hnone
  rcases r.refresh_cases turn with ⟨_, heq⟩ | ⟨_, _, _, heq⟩ |
    ⟨_, _, _, _, _, _, heq⟩ | ⟨_, _, _, _, _, _, heq⟩
  · rw [heq]
  · rw [heq]
  · rw [heq]
  · simp [heq, Except.toOption] at hnone

/-! ## Runs -/

/-- What is held was minted, and was minted before it expired. -/
structure Keeps (history : List (String × Int)) (r : Rotator) : Prop where
  holds : r.Holds
  origin : r.token ≠ "" → (r.token, r.expiresAt) ∈ history

section

variable {history : List (String × Int)}

theorem Keeps.refresh (keeps : r.Keeps history) (sound : turn.Sound) :
    (r.refresh turn).rotator.Keeps (history ++ (r.minted turn).toList) := by
  cases hminted : r.minted turn with
  | none =>
    rw [refresh_rotator_of_minted_none hminted]
    simpa using keeps
  | some pair =>
    unfold minted at hminted
    rcases r.refresh_cases turn with ⟨_, heq⟩ | ⟨_, _, _, heq⟩ |
      ⟨_, _, _, _, _, _, heq⟩ | ⟨_, config, token, expiry, _, hmint, heq⟩
    · simp [heq] at hminted
    · simp [heq] at hminted
    · simp [heq, Except.toOption] at hminted
    · have hfresh := sound.fresh config r.ttl token expiry hmint
      rw [heq] at hminted ⊢
      obtain rfl : (token, expiry) = pair := Option.some.inj hminted
      exact ⟨fun _ => hfresh.2, fun _ => by simp⟩

theorem after_concat (r : Rotator) (past : List RotatorTurn) (turn : RotatorTurn) :
    r.after (past ++ [turn]) = ((r.after past).refresh turn).rotator := by
  simp [after]

theorem issued_concat (r : Rotator) (past : List RotatorTurn) (turn : RotatorTurn) :
    r.issued (past ++ [turn]) = r.issued past ++ ((r.after past).minted turn).toList := by
  induction past generalizing r with
  | nil => simp [issued, after]
  | cons head past ih =>
    rw [List.cons_append, issued, ih, issued, List.append_assoc]
    rfl

theorem keeps_new (base : RestConfig) (bootstrap : Option RestConfig) (ttl : Int)
    (fraction : RefreshFraction) :
    (newRotator base bootstrap ttl fraction).Keeps [] :=
  ⟨fun h => absurd rfl h, fun h => absurd rfl h⟩

theorem Keeps.after (keeps : r.Keeps []) {past : List RotatorTurn}
    (sound : ∀ turn ∈ past, turn.Sound) :
    (r.after past).Keeps (r.issued past) := by
  induction past using List.reverseRecOn with
  | nil => exact keeps
  | append_singleton past turn ih =>
    rw [after_concat, issued_concat]
    have hpast := ih fun earlier hmem =>
      sound earlier (List.mem_append_left _ hmem)
    exact hpast.refresh (sound turn (by simp))

theorem after_settings (r : Rotator) (past : List RotatorTurn) :
    (r.after past).base = r.base ∧ (r.after past).bootstrap = r.bootstrap := by
  induction past using List.reverseRecOn with
  | nil => exact ⟨rfl, rfl⟩
  | append_singleton past turn ih =>
    have hturn := (r.after past).refresh_settings turn
    rw [after_concat]
    exact ⟨hturn.1.trans ih.1, hturn.2.1.trans ih.2⟩

/-! ## What a call returns -/

/-- A call that succeeds returns the token that is held after it, unexpired at
every reading of the call. -/
theorem Keeps.config_ok (keeps : r.Keeps history) (sound : turn.Sound) {config : RestConfig}
    (hconfig : r.config turn = .ok config) :
    config = (r.refresh turn).rotator.tokenConfig ∧ (r.refresh turn).rotator.token ≠ "" ∧
      ∀ reading ∈ r.readings turn, reading < (r.refresh turn).rotator.expiresAt := by
  unfold Rotator.config at hconfig
  rcases r.refresh_cases turn with ⟨hneeds, heq⟩ | ⟨_, _, _, heq⟩ |
    ⟨_, _, _, _, _, _, heq⟩ | ⟨hneeds, minting, token, expiry, _, hmint, heq⟩
  · -- The deadline is not later than the expiry.
    obtain ⟨htoken, hbefore⟩ := needsRefreshLocked_eq_false.mp hneeds
    have hdeadline := keeps.holds.deadline_le htoken turn.check
    simp only [heq, Except.ok.injEq] at hconfig ⊢
    refine ⟨hconfig.symm, htoken, ?_⟩
    simp only [readings, hneeds, Bool.false_eq_true, if_false, List.mem_singleton]
    intro reading hreading
    omega
  · simp [heq] at hconfig
  · simp [heq] at hconfig
  · obtain ⟨hnonempty, hlater⟩ :=
      sound.fresh minting r.ttl token expiry hmint
    have hclock := sound.clock
    simp only [heq, Except.ok.injEq] at hconfig ⊢
    refine ⟨hconfig.symm, hnonempty, ?_⟩
    simp only [readings, hneeds, if_true, List.mem_cons, List.not_mem_nil, or_false]
    intro reading hreading
    omega

/-- In every run of calls with a sound minter: a call that succeeds returns a
config whose only secret is a token that was minted in the run and has not
expired; the minter is called with the token in hand while that is valid, and
with the admin credential only when there is none or it has expired; and a turn
in which nothing is minted leaves the rotator as it was. -/
theorem rotation_safe (base : RestConfig) (bootstrap : Option RestConfig) (ttl : Int)
    (fraction : RefreshFraction) (past : List RotatorTurn) (turn : RotatorTurn)
    (sound : ∀ other ∈ past ++ [turn], other.Sound) :
    let start := newRotator base bootstrap ttl fraction
    let r := start.after past
    (∀ config,
      r.config turn = .ok config →
      config = { anonymousClientConfig base with bearerToken := config.bearerToken } ∧
        (∃ expiry,
          (config.bearerToken, expiry) ∈ start.issued (past ++ [turn]) ∧
          ∀ reading ∈ r.readings turn, reading < expiry) ∧
        ∀ secret ∈ config.secrets, ∃ expiry, (secret, expiry) ∈ start.issued (past ++ [turn])) ∧
    (∀ attempt,
      (r.refresh turn).attempt = some attempt →
      (attempt.handed = r.tokenConfig ∧ r.token ≠ "" ∧ turn.mint < r.expiresAt) ∨
        (bootstrap = some attempt.handed ∧ (r.token = "" ∨ r.expiresAt ≤ turn.mint))) ∧
    (r.minted turn = none → (r.refresh turn).rotator = r) := by
  intro start r
  have hkeeps : r.Keeps (start.issued past) :=
    (keeps_new base bootstrap ttl fraction).after fun other hmem =>
      sound other (List.mem_append_left _ hmem)
  have hturn : turn.Sound := sound turn (by simp)
  have hsettings : r.base = anonymousClientConfig base ∧
    r.bootstrap = bootstrap := start.after_settings past
  refine ⟨?_, ?_, refresh_rotator_of_minted_none⟩
  · intro config hconfig
    obtain ⟨rfl, htoken, hreadings⟩ := hkeeps.config_ok hturn hconfig
    have hnext := hkeeps.refresh hturn
    rw [← issued_concat] at hnext
    have hbase : (r.refresh turn).rotator.base = anonymousClientConfig base :=
      (r.refresh_settings turn).1.trans hsettings.1
    have hshape : (r.refresh turn).rotator.tokenConfig = { anonymousClientConfig base with
          bearerToken := (r.refresh turn).rotator.token } := by
      rw [← hbase]
      rfl
    refine ⟨hshape, ⟨_, hnext.origin htoken, hreadings⟩, ?_⟩
    intro secret hsecret
    rw [hshape] at hsecret
    rw [mem_secrets_anonymous hsecret]
    exact ⟨_, hnext.origin htoken⟩
  · intro attempt hattempt
    rcases r.refresh_cases turn with ⟨_, heq⟩ | ⟨_, _, _, heq⟩ |
      ⟨_, config, problem, _, hmint, _, heq⟩ |
      ⟨_, config, token, expiry, hmint, _, heq⟩
    · simp [heq] at hattempt
    · simp [heq] at hattempt
    · simp only [heq, Option.some.injEq] at hattempt
      subst attempt
      rw [← hsettings.2]
      exact mintConfig_eq_ok hmint
    · simp only [heq, Option.some.injEq] at hattempt
      subst attempt
      rw [← hsettings.2]
      exact mintConfig_eq_ok hmint

/-! ## A sample spoke -/

end

namespace Sample

def admin : RestConfig := ⟨"https://east:6443", "ca", "", ["admin key"]⟩

def fraction : RefreshFraction where
  value := mkRat 4 5
  pos := by decide +kernel
  le_one := by decide +kernel

def serving (now : Int) (token : String) : RotatorTurn :=
  ⟨now, now, fun _ ttl => if ttl = 3600 then .ok (token, now + 3600)
    else .error "unexpected lifetime"⟩

def failing (now : Int) : RotatorTurn :=
  ⟨now, now, fun _ _ => .error "connection refused"⟩

def start : Rotator := newRotator admin (some admin) 3600 fraction

theorem serving_sound (now : Int) {token : String} (htoken : token ≠ "") :
    (serving now token).Sound := by
  refine ⟨le_rfl, ?_⟩
  intro config ttl minted expiry hmint
  unfold serving at hmint ⊢
  dsimp only at hmint ⊢
  split_ifs at hmint
  · obtain ⟨rfl, rfl⟩ := Prod.mk.inj (Except.ok.inj hmint)
    exact ⟨htoken, by omega⟩

end Sample

open Rotator.Sample

/-- The first token comes from the admin credential, the second one from the
first. -/
theorem rotation_safe_sample :
    let past := [serving 0 "one"]
    let turn := serving 3000 "two"
    (start.after past).config turn = .ok ⟨"https://east:6443", "ca", "two", []⟩ ∧
    (∃ expiry,
      ("two", expiry) ∈ start.issued (past ++ [turn]) ∧
      ∀ reading ∈ (start.after past).readings turn, reading < expiry) ∧
    ∃ attempt,
      ((start.after past).refresh turn).attempt = some attempt ∧
      attempt.handed = (start.after past).tokenConfig := by
  intro past turn
  have hsound : ∀ other ∈ past ++ [turn], other.Sound := by
    intro other hmem
    simp only [past, turn, List.cons_append, List.nil_append, List.mem_cons,
      List.not_mem_nil, or_false] at hmem
    rcases hmem with rfl | rfl
    · exact serving_sound 0 (by decide)
    · exact serving_sound 3000 (by decide)
  have hsafe := rotation_safe admin (some admin) 3600 fraction past turn hsound
  have hconfig : (start.after past).config turn =
    .ok ⟨"https://east:6443", "ca", "two", []⟩ := by decide +kernel
  have hattempt : ((start.after past).refresh turn).attempt =
    some ⟨(start.after past).tokenConfig, .ok ("two", 6600)⟩ :=
      by decide +kernel
  exact ⟨hconfig, (hsafe.1 _ hconfig).2.1, _, hattempt, rfl⟩

/-! ## Renewals that fail -/

/-- While the token in hand is valid, a call returns a valid token exactly when
the deadline has not come or the minter gives it one. -/
theorem config_serves_iff (r : Rotator) (turn : RotatorTurn)
    (held : r.token ≠ "")
    (clock : turn.check ≤ turn.mint)
    (unexpired : turn.mint < r.expiresAt) :
    (∃ config,
      r.config turn = .ok config ∧
      config.bearerToken ≠ "" ∧
      config.bearerToken = (r.refresh turn).rotator.token ∧
      ∀ reading ∈ r.readings turn, reading < (r.refresh turn).rotator.expiresAt) ↔
      (turn.check < r.refreshDeadlineLocked turn.check ∨
        ∃ token expiry,
          turn.minter r.tokenConfig r.ttl = .ok (token, expiry) ∧
          token ≠ "" ∧
          turn.mint < expiry) := by
  have hmintConfig : r.mintConfig turn.mint = .ok r.tokenConfig := by
    unfold mintConfig
    rw [if_pos ⟨held, unexpired⟩]
  have hdeadline : r.needsRefreshLocked turn.check = true →
      ¬ turn.check < r.refreshDeadlineLocked turn.check := by
    simp [needsRefreshLocked, held]
  unfold Rotator.config readings
  rcases r.refresh_cases turn with ⟨hneeds, heq⟩ | ⟨_, problem, hmint, _⟩ |
    ⟨hneeds, minting, problem, text, hmint, hfails, heq⟩ |
    ⟨hneeds, minting, token, expiry, hmint, hgives, heq⟩
  · have hbefore := (needsRefreshLocked_eq_false.mp hneeds).2
    simp only [heq, hneeds, hbefore, true_or, iff_true]
    refine ⟨_, rfl, held, rfl, ?_⟩
    simp only [Bool.false_eq_true, if_false, List.mem_singleton]
    intro reading hreading
    omega
  · simp [hmintConfig] at hmint
  · obtain rfl : r.tokenConfig = minting :=
      Except.ok.inj (hmintConfig.symm.trans hmint)
    simp [heq, hfails, hdeadline hneeds]
  · obtain rfl : r.tokenConfig = minting :=
      Except.ok.inj (hmintConfig.symm.trans hmint)
    simp only [heq, hneeds, hgives, hdeadline hneeds, false_or, if_true]
    constructor
    · intro ⟨config, _, hnonempty, htoken, hreadings⟩
      exact ⟨token, expiry, rfl, htoken ▸ hnonempty, hreadings turn.mint (by simp)⟩
    · intro ⟨_, _, hsame, hnonempty, hlater⟩
      obtain ⟨rfl, rfl⟩ := Prod.mk.inj (Except.ok.inj hsame)
      refine ⟨_, rfl, hnonempty, rfl, ?_⟩
      simp only [List.mem_cons, List.not_mem_nil, or_false]
      intro reading hreading
      omega

/-- Early in its life the token is returned although the minter is down. -/
theorem config_serves_iff_sample :
    let r := start.after [serving 0 "one"]
    r.token = "one" ∧
    ∃ config,
      r.config (failing 1000) = .ok config ∧
      config.bearerToken = (r.refresh (failing 1000)).rotator.token := by
  intro r
  have hserves := config_serves_iff r (failing 1000) (by decide +kernel)
    le_rfl (by decide +kernel)
  obtain ⟨config, hconfig, _, htoken, _⟩ :=
    hserves.mpr (.inl (by decide +kernel))
  exact ⟨rfl, config, hconfig, htoken⟩

/-- The minter is down for a moment after the deadline: the call fails, ten
minutes before the token in hand expires. -/
theorem failed_renewal_interrupts :
    let r := start.after [serving 0 "one"]
    r.token = "one" ∧
    3000 < r.expiresAt ∧
    r.config (failing 3000) =
      .error ("cluster: refreshing token " ++
        "for k8s-r8r-system/k8s-r8r: connection refused") := by
  decide +kernel

end Rotator

end K8sR8r
