import QuorumRate.Proofs.Attempt
import QuorumRate.Venue.Ticker

/-! How a request can fail without any venue being at fault: somewhere on its chain of redirects a
request is refused, a location leads astray, or the last body has a number that nothing holds. -/
namespace QuorumRate

def stopsAtNumber : Except Json.BodyFault Json → Bool
  | .error (.text _ .unholdableNumber) => true
  | _ => false

def Unholdable (nesting : Nat) (status : Int) (body : Octets) : Prop :=
  Client.isSuccess status = true ∧ stopsAtNumber (Json.ofBody nesting body) = true
instance (nesting status body) : Decidable (Unholdable nesting status body) := by
  unfold Unholdable
  infer_instance

inductive Misleads (net : Network) (url : Url) : Failure → Prop where
  | refused {refusal text} : net.reply url = .refused refusal text →
      Misleads net url (.refused refusal text)
  | unwritable {place} : net.reply url = .unwritable place → Misleads net url (.beyondAscii place)
  | derailed {status body location failure} : net.reply url = .answer status body location →
      Escapes (Client.next? url status location) failure → Misleads net url failure

/-- The ways astray from an address over so many redirects at most. -/
inductive Strays (net : Network) : Nat → Url → Failure → Prop where
  | misled {left url failure} : Misleads net url failure → Strays net left url failure
  | unholdable {left url status body location} :
      net.reply url = .answer status body location →
      Client.next? url status location = .ok none → Unholdable net.nesting status body →
      Strays net left url (.arithmetic .invalidOperation)
  | hop {left url status body location next failure} :
      net.reply url = .answer status body location →
      Client.next? url status location = .ok (some next) → Strays net left next failure →
      Strays net (left + 1) url failure

def GoesOn (net : Network) (left : Nat) (status : Int) (body : Octets) (failure : Failure) :
    Option Url → Prop
  | none => Unholdable net.nesting status body ∧ failure = .arithmetic .invalidOperation
  | some next => ∃ fewer, left = fewer + 1 ∧ Strays net fewer next failure

theorem straysIff {net left url failure} :
    Strays net left url failure ↔ Misleads net url failure ∨
      ∃ status body location next, net.reply url = .answer status body location ∧
        Client.next? url status location = .ok next ∧ GoesOn net left status body failure next := by
  constructor
  · intro strays
    cases strays with
    | misled astray => exact .inl astray
    | unholdable reply ends body => exact .inr ⟨_, _, _, none, reply, ends, body, rfl⟩
    | hop reply leads further => exact .inr ⟨_, _, _, some _, reply, leads, _, rfl, further⟩
  · rintro (astray | ⟨_, _, _, next, reply, leads, on⟩)
    · exact .misled astray
    · cases next with
      | none =>
        obtain ⟨body, rfl⟩ := on
        exact .unholdable reply leads body
      | some next =>
        obtain ⟨fewer, rfl, further⟩ := on
        exact .hop reply leads further

namespace Client

def hops (client : Client) : Nat := if client.follows then maxRedirects else 0

theorem decodeEscapes {nesting : Nat} {r : Response} {failure} :
    Escapes (decode nesting r).result failure ↔
      Unholdable nesting r.status r.body ∧ failure = .arithmetic .invalidOperation := by
  unfold decode Unholdable stopsAtNumber
  split
  · rename_i success
    split
    · rename_i v read
      exact iff_of_false okStays (by simp [read])
    · rename_i text read
      constructor
      · rintro ⟨same, _⟩
        exact ⟨⟨success, by rw [read]⟩, (Except.error.inj same).symm⟩
      · rintro ⟨_, rfl⟩
        exact arithmeticEscapes
    · rename_i fault other read
      refine iff_of_false venueStays ?_
      rintro ⟨⟨_, unholdable⟩, _⟩
      rw [read] at unholdable
      split at unholdable
      · rename_i text same
        exact other text (Except.error.inj same)
      · contradiction
  · rename_i failed
    exact iff_of_false venueStays fun h => failed h.1.1

theorem requestResult (net : Network) (url : Url) :
    (request net url).result = match net.reply url with
      | .timeout text => .error (.venue (.timeout text))
      | .broken text => .error (.venue (.unreachable text))
      | .refused refusal text => .error (.refused refusal text)
      | .unwritable place => .error (.beyondAscii place)
      | .answer status body location =>
        (next? url status location).map fun next => (⟨url, status, body⟩, next) := by
  unfold request
  cases net.reply url <;> rfl

theorem requestEscapes {net url failure} :
    Escapes (request net url).result failure ↔ Misleads net url failure := by
  rw [requestResult]
  constructor
  · intro escapes
    cases reply : net.reply url with
    | timeout text => exact absurd (reply ▸ escapes) venueStays
    | broken text => exact absurd (reply ▸ escapes) venueStays
    | refused refusal text =>
      rw [reply] at escapes
      obtain ⟨same, _⟩ := escapes
      cases same
      exact .refused reply
    | unwritable place =>
      rw [reply] at escapes
      obtain ⟨same, _⟩ := escapes
      cases same
      exact .unwritable reply
    | answer status body location =>
      rw [reply] at escapes
      exact .derailed reply (escapesMap.mp escapes)
  · intro astray
    cases astray with
    | refused reply =>
      rw [reply]
      exact refusedEscapes
    | unwritable reply =>
      rw [reply]
      exact ⟨rfl, fun _ => by simp⟩
    | derailed reply escapes =>
      rw [reply]
      exact escapesMap.mpr escapes

theorem requestOk {net url response next} :
    (request net url).result = .ok (response, next) ↔
      ∃ status body location, net.reply url = .answer status body location ∧
        next? url status location = .ok next ∧ response = ⟨url, status, body⟩ := by
  rw [requestResult]
  constructor
  · intro ok
    split at ok <;> try contradiction
    rename_i status body location reply
    cases found : next? url status location with
    | error failure =>
      rw [found] at ok
      cases ok
    | ok own =>
      rw [found] at ok
      cases ok
      exact ⟨status, body, location, reply, found, rfl⟩
  · rintro ⟨status, body, location, reply, found, rfl⟩
    rw [reply]
    dsimp only
    rw [found]
    rfl

theorem redirectFails {status : Int} (redirects : isRedirect status = true) :
    isSuccess status = false := by
  simp only [isRedirect, List.contains_eq_mem, List.mem_cons, List.not_mem_nil, or_false,
    decide_eq_true_eq] at redirects
  simp only [isSuccess, Bool.and_eq_false_iff, decide_eq_false_iff_not]
  omega

theorem successEnds {url : Url} {status location next} (success : isSuccess status = true)
    (ok : next? url status location = .ok next) : next = none := by
  have stays : isRedirect status = false :=
    Bool.eq_false_iff.mpr fun redirects => by simp [redirectFails redirects] at success
  unfold next? at ok
  split at ok
  · exact (Except.ok.inj ok).symm
  · rw [stays] at ok
    exact (Except.ok.inj ok).symm

theorem requestThen {net url nesting failure} {g : Response × Option Url → Attempt Response} :
    Escapes ((request net url >>= g) >>= decode nesting).result failure ↔
      Misleads net url failure ∨
      ∃ status body location next, net.reply url = .answer status body location ∧
        next? url status location = .ok next ∧
        Escapes (g (⟨url, status, body⟩, next) >>= decode nesting).result failure := by
  have assoc : ((request net url >>= g) >>= decode nesting).result =
      (request net url).result.bind fun found => (g found >>= decode nesting).result := by
    rw [Attempt.bindResult, Attempt.bindResult]
    cases (request net url).result with
    | error other => rfl
    | ok found => exact (Attempt.bindResult (g found) (decode nesting)).symm
  rw [assoc, escapesBind, requestEscapes]
  refine or_congr_right ?_
  constructor
  · rintro ⟨⟨response, next⟩, ok, escapes⟩
    obtain ⟨status, body, location, reply, leads, rfl⟩ := requestOk.mp ok
    exact ⟨status, body, location, next, reply, leads, escapes⟩
  · rintro ⟨status, body, location, next, reply, leads, escapes⟩
    exact ⟨_, requestOk.mpr ⟨status, body, location, reply, leads, rfl⟩, escapes⟩

theorem followStrays {net left url failure} :
    Escapes (follow net left url >>= decode net.nesting).result failure ↔
      Strays net left url failure := by
  induction left generalizing url with
  | zero =>
    rw [follow, requestThen, straysIff]
    refine or_congr_right (exists₄_congr fun status body location next => ?_)
    refine and_congr_right fun _ => and_congr_right fun _ => ?_
    cases next with
    | none => exact decodeEscapes
    | some next => exact iff_of_false venueStays fun ⟨_, noHop, _⟩ => nomatch noHop
  | succ left ih =>
    rw [follow, requestThen, straysIff]
    refine or_congr_right (exists₄_congr fun status body location next => ?_)
    refine and_congr_right fun _ => and_congr_right fun _ => ?_
    cases next with
    | none => exact decodeEscapes
    | some next =>
      refine ih.trans ⟨fun strays => ⟨left, rfl, strays⟩, ?_⟩
      rintro ⟨fewer, same, strays⟩
      cases same
      exact strays

theorem getJsonStrays {client : Client} (isOpen : client.isClosed = false) {net url failure} :
    Escapes (client.getJson net url).result failure ↔ Strays net client.hops url failure := by
  unfold getJson get hops
  rw [isOpen, if_neg Bool.false_ne_true]
  split
  · exact followStrays
  · rw [requestThen, straysIff]
    refine or_congr_right (exists₄_congr fun status body location next => ?_)
    refine and_congr_right fun _ => and_congr_right fun leads => ?_
    refine decodeEscapes.trans ?_
    cases next with
    | none => exact Iff.rfl
    | some next =>
      refine iff_of_false ?_ fun ⟨_, noHop, _⟩ => nomatch noHop
      rintro ⟨⟨success, _⟩, _⟩
      exact nomatch successEnds success leads

end Client
end QuorumRate
