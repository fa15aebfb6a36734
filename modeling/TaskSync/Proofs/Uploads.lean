import TaskSync.Proofs.Decimals
import TaskSync.Proofs.Stored

/-!
# Two ways to send a body

A body may be sent in one piece, with its length announced, or in several pieces
without. The body limit reads the announced length in one case and counts the
bytes in the other. To the client and to the store both are the same.
-/

namespace TaskSync

/-! ## The limit -/

namespace Number

theorem decimal_natCast (n : Nat) : decimal n = Nat.toDigits 10 n := by
  simp [decimal]

theorem lt_ofNat_iff {a : Number} {n : Nat} :
    a.lt (ofNat n) = true ↔ a = infinity true ∨ ∃ q : Rat, a = finite q ∧ q < n := by
  rcases a with _ | s | q
  · simp [lt, le]
  · cases s <;> simp [lt, le, ofNat]
  · simp only [lt, le, ofNat, Bool.and_eq_true, decide_eq_true_eq, Bool.not_eq_true',
      decide_eq_false_iff_not, not_le, reduceCtorEq, finite.injEq, exists_eq_left', false_or]
    exact ⟨And.right, fun less => ⟨less.le, less⟩⟩

/-- Rounding takes no length to the other side of a limit, as long as one of them can be counted
exactly. -/
theorem lt_round {limit : Number} {n : Nat}
    (counted : n < 2 ^ 53 ∨ limit.lt (ofNat (2 ^ 53)) = true) :
    limit.lt (round n) = limit.lt (ofNat n) := by
  by_cases safe : n < 2 ^ 53
  · have exact : round n = ofNat n := by exact_mod_cast round_intCast (i := n) safe
    rw [exact]
  -- A length that may be rounded is above the limit, and is not rounded to less than `2 ^ 53`.
  have small := lt_ofNat_iff.mp (counted.resolve_left safe)
  have above : (2 : Rat) ^ 53 ≤ n := by exact_mod_cast not_lt.mp safe
  have long : limit.lt (ofNat n) = true := by
    refine lt_ofNat_iff.mpr (small.imp_right ?_)
    rintro ⟨q, rfl, hq⟩
    push_cast at hq
    exact ⟨q, rfl, hq.trans_le above⟩
  rw [long]
  rcases le_round above with rounded | ⟨r, rounded, hr⟩
  · rw [rounded]
    rcases small with rfl | ⟨q, rfl, -⟩ <;> rfl
  · rw [rounded]
    rcases small with rfl | ⟨q, rfl, hq⟩
    · rfl
    · push_cast at hq
      simp [lt, le, (hq.trans_le hr).le, hq.trans_le hr]

end Number

namespace Http

theorem leadingInteger_decimal (n : Nat) :
    leadingInteger (String.ofList (Number.decimal n)) = .round n := by
  have digits : ∀ c ∈ Nat.toDigits 10 n, c.isDigit = true :=
    fun c hc => Nat.isDigit_of_mem_toDigits (by omega) (by omega) hc
  have whole : (Nat.toDigits 10 n).takeWhile Char.isDigit = Nat.toDigits 10 n := by
    rw [List.takeWhile_eq_self_iff]
    exact digits
  have value : Nat.ofDigitChars 10 (Nat.toDigits 10 n) 0 = n :=
    Nat.ofDigitChars_toDigits (by omega) (by omega)
  unfold leadingInteger
  rw [String.toList_ofList, Number.decimal_natCast]
  have filled : Nat.toDigits 10 n ≠ [] := Nat.toDigits_ne_nil
  obtain ⟨c, cs, split⟩ := List.exists_cons_of_ne_nil filled
  have first : c.isDigit = true := digits c (by simp [split])
  have plain : (Nat.toDigits 10 n).dropWhile Text.isBlank = Nat.toDigits 10 n := by
    rw [split, List.dropWhile_cons_of_neg (by simp [Number.isBlank_of_isDigit first])]
  rw [plain]
  dsimp only
  split
  · next same => exact absurd (digits '-' (by simp [same])) (by decide)
  · next same => exact absurd (digits '+' (by simp [same])) (by decide)
  · simp [whole, value, filled]

theorem App.respond_congr {app app' : App} {request request' : Request}
    (goal : destination request = destination request')
    (id : requestId? request.headers = requestId? request'.headers)
    (guarded : app.guarded request (destination request) =
      app'.guarded request' (destination request')) :
    app.respond request = app'.respond request' := by
  unfold respond logged
  dsimp only
  rw [guarded, goal, id]

/-- A body in one piece with its length announced, and the same body in several pieces without.
Nothing else is different. -/
structure Uploads (pieces : List Bytes) (sized chunked : Request) : Prop where
  method : chunked.method = sized.method
  target : chunked.target = sized.target
  whole : sized.body = .whole pieces.flatten
  inPieces : chunked.body = .chunks pieces
  announced : sized.headers.get? "content-length" =
    some (String.ofList (Number.decimal pieces.flatten.length))
  plain : sized.headers.get? "transfer-encoding" = none
  unannounced : chunked.headers.get? "content-length" = none
  others : ∀ name, name ≠ "content-length" → name ≠ "transfer-encoding" →
    chunked.headers.get? name = sized.headers.get? name

namespace Uploads

variable {pieces : List Bytes} {sized chunked : Request} (uploads : Uploads pieces sized chunked)
  {limit : Number}
include uploads

theorem exceeds_chunked : exceeds limit chunked = limit.lt (.ofNat pieces.flatten.length) := by
  have unannounced : announcedLength? chunked.headers = none := by
    unfold announcedLength?
    rw [uploads.unannounced]
    split <;> simp_all
  unfold exceeds
  rw [uploads.inPieces, unannounced]
  rfl

theorem exceeds_sized
    (counted : pieces.flatten.length < 2 ^ 53 ∨ limit.lt (.ofNat (2 ^ 53)) = true) :
    exceeds limit sized = limit.lt (.ofNat pieces.flatten.length) := by
  have filled : String.ofList (Number.decimal pieces.flatten.length) ≠ "" := by
    rw [ne_eq, String.ofList_eq_empty_iff, Number.decimal_natCast]
    exact Nat.toDigits_ne_nil
  have announced : announcedLength? sized.headers = some (.round pieces.flatten.length) := by
    unfold announcedLength?
    rw [uploads.announced, uploads.plain]
    dsimp only
    rw [if_neg filled, leadingInteger_decimal]
  unfold exceeds
  rw [uploads.whole, announced]
  exact Number.lt_round counted

theorem header {name : String} (length : name ≠ "content-length")
    (encoding : name ≠ "transfer-encoding") :
    chunked.headers.filled? name = sized.headers.filled? name := by
  rw [Headers.filled?, Headers.filled?, uploads.others name length encoding]

theorem destination : App.destination chunked = App.destination sized := by
  unfold App.destination Request.verb
  rw [uploads.method, uploads.target]

theorem admits (list : Allowlist) : list.admits chunked.headers = list.admits sized.headers := by
  rw [Allowlist.admits, Allowlist.admits, uploads.header (by decide) (by decide)]

theorem bytes : chunked.body.bytes = sized.body.bytes := by
  rw [uploads.inPieces, uploads.whole]
  rfl

theorem read (endpoint : Endpoint) :
    Command.read chunked endpoint = Command.read sized endpoint := by
  have client : Command.readClient chunked.headers = Command.readClient sized.headers := by
    rw [Command.readClient, Command.readClient, uploads.header (by decide) (by decide)]
  have body (mediaType what : String) :
      Command.readBody mediaType what chunked = Command.readBody mediaType what sized := by
    rw [Command.readBody, Command.readBody, uploads.bytes, uploads.header (by decide) (by decide)]
  cases endpoint <;> simp only [Command.read, client, body]

theorem serve (app : App) (goal : App.Destination) :
    app.serve chunked goal = app.serve sized goal := by
  unfold App.serve
  simp only [uploads.read]

theorem guarded {app : App}
    (counted : pieces.flatten.length < 2 ^ 53 ∨ app.maxBody.lt (.ofNat (2 ^ 53)) = true)
    (goal : App.Destination) : app.guarded chunked goal = app.guarded sized goal := by
  rw [App.guarded, App.guarded, uploads.admits, uploads.serve, uploads.exceeds_chunked,
    uploads.exceeds_sized counted]

theorem respond {app : App}
    (counted : pieces.flatten.length < 2 ^ 53 ∨ app.maxBody.lt (.ofNat (2 ^ 53)) = true) :
    app.respond chunked = app.respond sized := by
  refine App.respond_congr uploads.destination ?_ ?_
  · rw [App.requestId?, App.requestId?, uploads.others _ (by decide) (by decide)]
  · rw [uploads.guarded counted, uploads.destination]

end Uploads

end Http

theorem Leads.respond_refused {app : Http.App} {request : Http.Request} {sent : Http.Response}
    (refused : app.guarded request (Http.App.destination request) = pure sent) :
    Leads Hears (fun response known => response.status = sent.status ∧ known = [])
      (app.respond request) [] := by
  have inner : Leads Hears (fun response known => response = sent ∧ known = [])
      (app.guarded request (Http.App.destination request)) [] := by
    rw [refused]
    exact Leads.done ⟨rfl, rfl⟩
  unfold Http.App.respond
  dsimp only
  refine Leads.bind ((Leads.logged Hears.ignoresAsides inner).mono ?_)
  rintro _ known ⟨_, id, ⟨rfl, nothing⟩, rfl⟩
  exact Leads.done ⟨rfl, nothing⟩

/-- Any id, or the content of a body. -/
def Part.FromBody (body : Bytes) : Part → Prop
  | id _ => True
  | content bytes => bytes = body

namespace Scenario

open Store
open Http (App Response Uploads)

/-- How an application takes a body in several pieces, and in one. -/
structure TakesEither (app : App) (pieces : List Bytes) (sized chunked : Http.Request) : Prop where
  /-- Both are handled in one way, whatever the surroundings answer. -/
  same : app.respond chunked = app.respond sized
  traffic : ∀ start moments,
    served app start [chunked] moments = served app start [sized] moments
  /-- A body that is too long is turned down before any call. -/
  tooLong : app.maxBody.lt (.ofNat pieces.flatten.length) = true →
    ∀ around : Surroundings, placed (converse around (app.respond chunked) []).2 = [] ∧
      (converse around (app.respond chunked) []).1.status =
        if app.allowlist.admits chunked.headers then 400 else 403
  unchanged : app.maxBody.lt (.ofNat pieces.flatten.length) = true → ∀ start moments,
    (served app start [chunked] moments).store = start
  /-- Any other is handled as if there were no limit, one of just the longest length too. -/
  fits : app.maxBody.lt (.ofNat pieces.flatten.length) = false →
    app.respond chunked = { app with maxBody := .infinity false }.respond chunked
  longest : app.maxBody = .ofNat pieces.flatten.length →
    app.respond chunked = { app with maxBody := .infinity false }.respond chunked
  /-- Any store is handed the pieces put together, and no other content. -/
  handed : ∀ around : Surroundings, ∀ q ∈ placed (converse around (app.respond chunked) []).2,
    ∀ bytes, .content bytes ∈ q.call.parts → bytes = pieces.flatten
  /-- So no other content comes to be stored. -/
  stored : ∀ start moments bytes,
    .content bytes ∈ (served app start [chunked] moments).store.parts →
      .content bytes ∈ start.parts ∨ bytes = pieces.flatten

section

variable {app : App} {pieces : List Bytes} {sized chunked : Http.Request} {endpoint : Http.Endpoint}

theorem guarded_tooLong (route : (App.destination chunked).route = some (.protocol endpoint))
    (long : Http.exceeds app.maxBody chunked = true) :
    ∃ sent : Response, app.guarded chunked (App.destination chunked) = pure sent ∧
      sent.status = if app.allowlist.admits chunked.headers then 400 else 403 := by
  unfold App.guarded
  rw [App.isGuarded_destination route, long]
  cases app.allowlist.admits chunked.headers with
  | true => exact ⟨_, rfl, rfl⟩
  | false => exact ⟨_, rfl, rfl⟩

theorem asks_tooLong (long : Http.exceeds app.maxBody chunked = true) :
    app.asks chunked = none := by
  unfold App.asks App.asksAt
  rw [long]
  split <;> simp

theorem respond_unlimited (short : Http.exceeds app.maxBody chunked = false)
    (unlimited : Http.exceeds (.infinity false) chunked = false) :
    app.respond chunked = { app with maxBody := .infinity false }.respond chunked := by
  have guarded (goal : App.Destination) :
      app.guarded chunked goal = { app with maxBody := .infinity false }.guarded chunked goal := by
    unfold App.guarded App.serve App.settle
    rw [short, unlimited]
  exact App.respond_congr rfl rfl (guarded _)

theorem parts_of_asks {P : Part → Prop} (ids : ∀ id, P (.id id))
    (content : P (.content chunked.body.bytes)) {command : Http.Command}
    (asked : app.asks chunked = some command) : ∀ p ∈ command.parts, P p := by
  obtain ⟨endpoint, client, -, -, means⟩ := App.means_of_asks asked
  cases means with
  | addVersion names | addSnapshot names =>
    simp only [Http.Command.parts, List.forall_mem_cons]
    exact ⟨ids _, ids _, content, List.forall_mem_nil _⟩
  | getChildVersion names | getSnapshot =>
    simp [Http.Command.parts, ids]

/-- **Two ways to send a body.** A body that comes in pieces of any kind is handled just as if it
came in one with its length announced. If it is too long, nothing is done for it. If not, its length
is no reason to refuse it, and the pieces are stored in a row. -/
theorem sent_either_way (uploads : Uploads pieces sized chunked)
    (route : (App.destination chunked).route = some (.protocol endpoint))
    (counted : pieces.flatten.length < 2 ^ 53 ∨ app.maxBody.lt (.ofNat (2 ^ 53)) = true) :
    TakesEither app pieces sized chunked := by
  have same := uploads.respond counted
  have fits (short : app.maxBody.lt (.ofNat pieces.flatten.length) = false) :
      app.respond chunked = { app with maxBody := .infinity false }.respond chunked :=
    respond_unlimited (uploads.exceeds_chunked.trans short) uploads.exceeds_chunked
  have whole : chunked.body.bytes = pieces.flatten := by rw [uploads.inPieces, Http.Body.bytes]
  constructor
  case same => exact same
  case traffic =>
    intro start moments
    rw [served, served, List.map_singleton, List.map_singleton, same]
  case tooLong =>
    intro long around
    obtain ⟨sent, refused, status⟩ := guarded_tooLong route (uploads.exceeds_chunked.trans long)
    have leads : Leads Hears _ (app.respond chunked) (heard []) :=
      Leads.respond_refused refused
    obtain ⟨answer, nothing⟩ := (Leads.speaks leads).converse around
    refine ⟨?_, answer.trans status⟩
    rw [← placed_heard, nothing]
    rfl
  case unchanged =>
    intro long start moments
    refine Traffic.view_eq id moments fun e he => ?_
    obtain ⟨request, hrequest, command, asked, -⟩ := served_about moments he
    obtain rfl := List.mem_singleton.mp hrequest
    rw [asks_tooLong (uploads.exceeds_chunked.trans long)] at asked
    cases asked
  case fits => exact fits
  case longest =>
    intro limit
    refine fits ?_
    rw [limit]
    simp [Number.lt]
  case handed =>
    intro around q hq bytes hbytes
    have own : ∀ command, app.asks chunked = some command →
        ∀ p ∈ command.parts, p.FromBody pieces.flatten :=
      fun command => parts_of_asks (fun id => trivial) whole
    have brings : Brings (Part.FromBody pieces.flatten) (app.respond chunked) :=
      .respond app chunked own
    exact brings.converse (fun said => trivial) (List.forall_mem_nil _) q hq _ hbytes
  case stored =>
    intro start moments bytes held
    have own : ∀ request ∈ [chunked], ∀ command, app.asks request = some command →
        ∀ p ∈ command.parts, p ∈ start.parts ∨ p.FromBody pieces.flatten :=
      List.forall_mem_singleton.mpr fun command =>
        parts_of_asks (fun id => .inr trivial) (.inr whole)
    exact parts_served (fun p => .inl) (.inr trivial) own (fun _ _ => .inr trivial) _ held

end

/-- A first version of three bytes. -/
def inOnePiece : Http.Request where
  method := "POST"
  target := "/v1/client/add-version/00000000-0000-0000-0000-000000000000"
  headers := ⟨[("content-length", "3"), ("x-client-id", "aaaaaaaa-aaaa-4aaa-8aaa-aaaaaaaaaaaa")]⟩
  body := .whole [1, 2, 3]

def inTwoPieces : Http.Request :=
  { inOnePiece with
    headers := ⟨[("x-client-id", "aaaaaaaa-aaaa-4aaa-8aaa-aaaaaaaaaaaa")]⟩
    body := .chunks [[1], [2, 3]] }

theorem sent_either_way_longest :
    Uploads [[1], [2, 3]] inOnePiece inTwoPieces ∧
      (App.destination inTwoPieces).route = some (.protocol (.addVersion nilId)) ∧
      TakesEither { maxBody := 3 } [[1], [2, 3]] inOnePiece inTwoPieces ∧
      .content [1, 2, 3] ∈ (served { maxBody := 3 } (.memory .empty) [inTwoPieces]
        (List.replicate 12 ⟨⟨0, 1, "33333333-3333-4333-8333-333333333333"⟩, none⟩)).store.parts := by
  have uploads : Uploads [[1], [2, 3]] inOnePiece inTwoPieces := by
    refine ⟨rfl, rfl, rfl, rfl, by decide, by decide, by decide, fun name length _ => ?_⟩
    have skipped : ("content-length" = name) = False := eq_false (Ne.symm length)
    simp [Http.Headers.get?, inOnePiece, inTwoPieces, skipped]
  have route : (App.destination inTwoPieces).route = some (.protocol (.addVersion nilId)) := by
    decide +kernel
  exact ⟨uploads, route, sent_either_way uploads route (.inl (by decide)), by decide +kernel⟩

end Scenario

end TaskSync
