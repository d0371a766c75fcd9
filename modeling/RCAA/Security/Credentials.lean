import RCAA.Billing.Deliveries

/-! The checks of a text a client supplies: the signature of a webhook and the code of
an authenticator. Both end in a comparison that takes ASCII text and raises on any
other. A signature reaches it as it came; a code reaches it through a filter that keeps
the digits of every script. -/

namespace RCAA.Security

open Billing

/-- `text.isascii()`. -/
def isAscii (text : String) : Bool := text.toList.all (·.toNat < 128)

/-- The check returns, and says yes to an accepted text only. -/
def Answers (outcome : Except Failure Bool) (accepted : Prop) : Prop :=
  ∃ answer, outcome = .ok answer ∧ (answer = true → accepted)

theorem answers_error (failure : Failure) (accepted : Prop) : ¬Answers (.error failure) accepted := by
  rintro ⟨_, returned, _⟩
  cases returned

/-! ## The comparison -/

theorem compareDigest_ascii {a b : String} (left : isAscii a = true) (right : isAscii b = true) :
    compareDigest a b = .ok (decide (a = b)) := if_pos ⟨left, right⟩

theorem compareDigest_raises {b : String} (a : String) (right : isAscii b = false) : compareDigest a b = .error .raised := by
  refine if_neg fun both => ?_
  rw [isAscii, both.2] at right
  cases right

theorem isAscii_digits {digits : List Char} (each : ∀ c ∈ digits, c.isDigit = true) :
    isAscii (.ofList digits) = true := by
  rw [isAscii, String.toList_ofList, List.all_eq_true]
  intro c member
  have range := Char.isDigit_iff_toNat.mp (each c member)
  exact decide_eq_true (range.2.trans_lt (by decide))

/-! ## The signature of a webhook -/

section Webhook
variable [WebhookRuntime] (settings : BillingSettings)

theorem verifyWebhook_answers_iff {body : List UInt8} (signature : String)
    (hexdigest : isAscii (WebhookRuntime.hmacSha256 settings.razorpayWebhookSecret body) = true) :
    Answers (verifyWebhook settings body signature)
      (signature = WebhookRuntime.hmacSha256 settings.razorpayWebhookSecret body) ↔ isAscii signature = true := by
  constructor
  · intro answers
    by_contra foreign
    rw [verifyWebhook, compareDigest_raises _ (Bool.eq_false_of_not_eq_true foreign)] at answers
    exact answers_error .raised _ answers
  · intro ascii
    exact ⟨_, compareDigest_ascii hexdigest ascii, fun equal => (of_decide_eq_true equal).symm⟩

/-- What the comparison raises ends the delivery, where its signature is read at all. -/
theorem processRazorpayWebhook_raises {d : Delivery} {signature : String} (given : d.signature = some signature)
    (configured : settings.razorpayWebhookSecret ≠ "") (accepted : sourceAccepted settings d.clientIp = true)
    (foreign : isAscii signature = false) (ledger : Ledger) :
    processRazorpayWebhook settings ledger d = (.error .raised, ledger) := by
  have nonempty : signature ≠ "" := by
    rintro rfl
    cases foreign
  have read : d.signature.filter (· ≠ "") = some signature := by
    rw [given, Option.filter_some, if_pos (decide_eq_true nonempty)]
  have checked : ¬(settings.razorpayWebhookSecret = "" ∨ sourceAccepted settings d.clientIp = false) := by
    rw [accepted]
    simpa using configured
  have raised : verified settings d = .error .raised := by
    rw [verified, read]
    exact (if_neg checked).trans (compareDigest_raises _ foreign)
  rw [processRazorpayWebhook, raised]

end Webhook

/-! ## The code of an authenticator -/

theorem truncated_ascii (digest : Vector UInt8 20) : isAscii (truncated digest) = true := by
  refine isAscii_digits fun c member => ?_
  rw [List.leftpad, List.mem_append] at member
  rcases member with padding | digit
  · rw [List.eq_of_mem_replicate padding]
    rfl
  · exact Decimal.digits_isDigit digit

section Code
variable [AuthRuntime]

/-- What is left of a code. -/
def keptDigits (code : String) : String := .ofList (code.toList.filter AuthRuntime.isDigit)

/-- The three time steps a code is compared with. -/
def codeWindow (now : Int) : List Int :=
  let counter := now / (30 * 1000000)
  [counter - 1, counter, counter + 1]

/-- The secret as it is decoded. -/
def paddedSecret (secret : String) : String :=
  upper secret ++ String.ofList (List.replicate ((8 - secret.length % 8) % 8) '=')

theorem hotp_eq (secret : String) (counter : Int) : hotp secret counter =
    match AuthRuntime.b32decode (paddedSecret secret) with
    | none => .error .raised
    | some key =>
      if 0 ≤ counter ∧ counter < 2 ^ 64 then .ok (truncated (AuthRuntime.hmacSha1 key (packQ counter.toNat)))
      else .error .raised := rfl

theorem hotp_decoded {secret : String} {key : List UInt8} {counter : Int}
    (decoded : AuthRuntime.b32decode (paddedSecret secret) = some key) (packs : 0 ≤ counter ∧ counter < 2 ^ 64) :
    hotp secret counter = .ok (truncated (AuthRuntime.hmacSha1 key (packQ counter.toNat))) := by
  rw [hotp_eq, decoded]
  exact if_pos packs

theorem hotp_undecoded {secret : String} (undecoded : AuthRuntime.b32decode (paddedSecret secret) = none) (counter : Int) :
    hotp secret counter = .error .raised := by
  rw [hotp_eq, undecoded]

/-- A code is six digits, or it is none. -/
theorem hotp_cases (secret : String) (counter : Int) :
    (∃ expected, hotp secret counter = .ok expected ∧ isAscii expected = true) ∨ hotp secret counter = .error .raised := by
  rw [hotp_eq]
  cases AuthRuntime.b32decode (paddedSecret secret) with
  | none => exact .inr rfl
  | some key =>
    by_cases packs : 0 ≤ counter ∧ counter < 2 ^ 64
    · exact .inl ⟨_, if_pos packs, truncated_ascii _⟩
    · exact .inr (if_neg packs)

theorem anyCode_cons {secret normalized expected : String} {counter : Int} (computed : hotp secret counter = .ok expected)
    (digits : isAscii expected = true) (ascii : isAscii normalized = true) (rest : List Int) :
    anyCode secret normalized (counter :: rest) =
      if expected = normalized then .ok true else anyCode secret normalized rest := by
  rw [anyCode, computed]
  refine (congrArg (· >>= fun same => if same then .ok true else anyCode secret normalized rest)
    (compareDigest_ascii digits ascii)).trans ?_
  by_cases equal : expected = normalized
  · rw [decide_eq_true equal, if_pos equal]
    rfl
  · rw [decide_eq_false equal, if_neg equal]
    rfl

/-- Every code compared is computed: the answer is whether one of them is the text. -/
theorem anyCode_answers {secret normalized : String} {counters : List Int}
    (served : ∀ counter ∈ counters, ∃ expected, hotp secret counter = .ok expected) (ascii : isAscii normalized = true) :
    Answers (anyCode secret normalized counters) (∃ counter ∈ counters, hotp secret counter = .ok normalized) := by
  induction counters with
  | nil => exact ⟨false, rfl, nofun⟩
  | cons counter rest ih =>
    obtain ⟨first, later⟩ := List.forall_mem_cons.mp served
    obtain ⟨expected, computed⟩ := first
    have digits : isAscii expected = true := by
      rcases hotp_cases secret counter with ⟨other, same, digits⟩ | raised
      · rw [computed, Except.ok.injEq] at same
        exact same ▸ digits
      · rw [computed] at raised
        cases raised
    obtain ⟨answer, returned, accepted⟩ := ih later
    rw [anyCode_cons computed digits ascii]
    by_cases equal : expected = normalized
    · exact ⟨true, if_pos equal, fun _ => ⟨counter, List.mem_cons_self, equal ▸ computed⟩⟩
    · refine ⟨answer, (if_neg equal).trans returned, fun yes => ?_⟩
      obtain ⟨other, member, same⟩ := accepted yes
      exact ⟨other, List.mem_cons_of_mem counter member, same⟩

/-- The first comparison raises, unless the first code does. -/
theorem anyCode_raises {secret normalized : String} (foreign : isAscii normalized = false) (counter : Int)
    (rest : List Int) : anyCode secret normalized (counter :: rest) = .error .raised := by
  rw [anyCode]
  rcases hotp_cases secret counter with ⟨expected, computed, _⟩ | raised
  · rw [computed]
    exact congrArg (· >>= fun same => if same then .ok true else anyCode secret normalized rest)
      (compareDigest_raises expected foreign)
  · rw [raised]
    rfl

theorem verifyCode_short {code : String} (length : (keptDigits code).length ≠ 6) (now : Int) (secret : String) :
    verifyCode now secret code = .ok false := if_pos length

theorem verifyCode_six {code : String} (length : (keptDigits code).length = 6) (now : Int) (secret : String) :
    verifyCode now secret code = anyCode secret (keptDigits code) (codeWindow now) := if_neg fun other => other length

/-- The digits of a code are those of one of the three time steps. -/
def MatchesStep (now : Int) (secret code : String) : Prop :=
  ∃ counter ∈ codeWindow now, hotp secret counter = .ok (keptDigits code)

theorem verifyCode_answers_iff {now : Int} (clock : ∀ counter ∈ codeWindow now, 0 ≤ counter ∧ counter < 2 ^ 64)
    (secret code : String) :
    Answers (verifyCode now secret code) (MatchesStep now secret code) ↔
      (keptDigits code).length ≠ 6 ∨
        isAscii (keptDigits code) = true ∧ (AuthRuntime.b32decode (paddedSecret secret)).isSome = true := by
  by_cases six : (keptDigits code).length = 6
  · rw [verifyCode_six six]
    constructor
    · intro answers
      refine .inr ⟨?ascii, ?decoded⟩
      case ascii =>
        by_contra foreign
        rw [codeWindow, anyCode_raises (Bool.eq_false_of_not_eq_true foreign)] at answers
        exact answers_error .raised _ answers
      case decoded =>
        cases decoded : AuthRuntime.b32decode (paddedSecret secret) with
        | some => rfl
        | none =>
          rw [codeWindow, anyCode, hotp_undecoded decoded] at answers
          exact absurd answers (answers_error .raised _)
    · rintro (short | ⟨ascii, decoded⟩)
      · exact absurd six short
      · obtain ⟨key, decoded⟩ := Option.isSome_iff_exists.mp decoded
        exact anyCode_answers (fun counter member => ⟨_, hotp_decoded decoded (clock counter member)⟩) ascii
  · exact ⟨fun _ => .inl six, fun _ => ⟨false, verifyCode_short six now secret, nofun⟩⟩

end Code

/-! ## Both checks -/

/-- The checks answer on ASCII text, and on a code that is not of six digits. The digest
of a signature is hexadecimal, and a time step is counted in eight bytes. -/
theorem credential_checks_answer_iff [AuthRuntime] (webhooks : WebhookRuntime) {settings : BillingSettings} {body : List UInt8}
    (hexdigest : isAscii (webhooks.hmacSha256 settings.razorpayWebhookSecret body) = true) {now : Int}
    (clock : ∀ counter ∈ codeWindow now, 0 ≤ counter ∧ counter < 2 ^ 64) (signature secret code : String) :
    (Answers (verifyWebhook settings body signature)
        (signature = webhooks.hmacSha256 settings.razorpayWebhookSecret body) ↔ isAscii signature = true) ∧
      (Answers (verifyCode now secret code) (MatchesStep now secret code) ↔
        (keptDigits code).length ≠ 6 ∨
          isAscii (keptDigits code) = true ∧ (AuthRuntime.b32decode (paddedSecret secret)).isSome = true) := by
  constructor
  · exact verifyWebhook_answers_iff settings signature hexdigest
  · exact verifyCode_answers_iff clock secret code

section Examples
open PlainText

/-- Its digits are those of two scripts. -/
local instance twoScripts : AuthRuntime where
  toPlatform := plainText
  hmacSha256 := plainAuth.hmacSha256
  sha256 := plainAuth.sha256
  encodeAccess := plainAuth.encodeAccess
  decodeAccess := plainAuth.decodeAccess
  encodeSpecial := plainAuth.encodeSpecial
  decodeSpecial := plainAuth.decodeSpecial
  hmacSha1 := plainAuth.hmacSha1
  b32encode := plainAuth.b32encode
  b32decode := plainAuth.b32decode
  b64encode := plainAuth.b64encode
  b64decode := plainAuth.b64decode
  scrypt := plainAuth.scrypt
  encrypt := plainAuth.encrypt
  decrypt := plainAuth.decrypt
  isDigit c := c.isDigit || ('０' ≤ c && c ≤ '９')
  quote := plainAuth.quote

local instance noDocuments : WebhookRuntime := plainWebhooks []

theorem credential_checks_answer_iff_plain :
    (Answers (verifyWebhook billingSettings [] "00ff") ("00ff" = WebhookRuntime.hmacSha256 "whsec" []) ↔
        isAscii "00ff" = true) ∧
      (Answers (verifyCode 1704110400000000 "JBSWY3DP" "123456") (MatchesStep 1704110400000000 "JBSWY3DP" "123456") ↔
        (keptDigits "123456").length ≠ 6 ∨ isAscii (keptDigits "123456") = true ∧
          (AuthRuntime.b32decode (paddedSecret "JBSWY3DP")).isSome = true) := by
  have hexdigest : isAscii (noDocuments.hmacSha256 billingSettings.razorpayWebhookSecret []) = true := by decide
  exact credential_checks_answer_iff noDocuments hexdigest (by decide) "00ff" "JBSWY3DP" "123456"

/-- A signature with an accent and a code in fullwidth digits raise. -/
theorem credential_checks_raise :
    ¬Answers (verifyWebhook billingSettings [] "é") ("é" = WebhookRuntime.hmacSha256 "whsec" []) ∧
      ¬Answers (verifyCode 1704110400000000 "JBSWY3DP" "１２３４５６")
        (MatchesStep 1704110400000000 "JBSWY3DP" "１２３４５６") := by
  constructor
  · have raised : verifyWebhook billingSettings [] "é" = .error .raised := compareDigest_raises _ (by decide)
    rw [raised]
    exact answers_error _ _
  · have six : (keptDigits "１２３４５６").length = 6 := by decide
    rw [verifyCode_six six, codeWindow, anyCode_raises (by decide)]
    exact answers_error _ _

end Examples
end RCAA.Security
