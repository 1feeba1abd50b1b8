import QuorumRate.Proofs.Encoding.Written
import QuorumRate.Proofs.Json.Reading
import QuorumRate.Proofs.Transport.Route

/-! A body that holds a value is received as that value, in every encoding and over every route of
redirects that the client follows. -/
namespace QuorumRate
open Json (Exact Slot Spells)

theorem Json.ofBodySlot {slot : Slot Json} (lead : Json.Begins slot.text)
    (writable : ∀ c ∈ slot.text, Json.Writable c) (nesting : Nat) (e : Encoding)
    (marked : Bool) : Json.ofBody nesting (e.written marked slot.written) =
      (Json.readWhole nesting slot.written).mapError (.text slot.written) := by
  have writable := Json.slotWritable writable
  obtain ⟨c, rest, split, ascii⟩ := Json.slotLead lead
  rw [split] at writable ⊢
  have read := Encoding.readWritten e marked ascii (fun d member => (writable d member).1)
    fun d member => (writable d member).2
  unfold Json.ofBody
  rw [read]
  dsimp only
  cases Json.readWhole nesting (c :: rest) <;> rfl

theorem Json.ofBodySpelled {depth nesting : Nat} {slot : Slot Json}
    (spells : Spells slot.value slot.text) (exact : Exact depth slot.value)
    (deep : depth ≤ nesting) (e : Encoding) (marked : Bool) :
    Json.ofBody nesting (e.written marked slot.written) = .ok slot.value := by
  rw [Json.ofBodySlot spells.lead (spells.writable exact), Json.readWholeSpelled spells exact deep]
  rfl

theorem Network.roomy (net : Network) : 200 ≤ net.nesting := le_trans (by decide) net.deep

structure Delivers (client : Client) (net : Network) (url : Url) (path : List Url) (last : Url)
    (body : Octets) : Prop where
  isOpen : client.isClosed = false
  route : Route net url path last
  few : path.length ≤ client.hops
  reply : ∃ status location, net.reply last = .answer status body location ∧
    Client.isSuccess status = true

namespace Delivers
variable {client : Client} {net : Network} {url last : Url} {path : List Url} {body : Octets}

theorem got (delivers : Delivers client net url path last body) :
    ∃ status, Client.isSuccess status = true ∧
      client.get net url = ⟨.ok ⟨last, status, body⟩, sent (path ++ [last])⟩ := by
  obtain ⟨status, location, reply, success⟩ := delivers.reply
  have redirects : Client.isRedirect status = false :=
    Bool.eq_false_iff.mpr fun redirects => by simp [Client.redirectFails redirects] at success
  have ends : Client.next? last status location = .ok none := by
    unfold Client.next?
    cases location with
    | none => rfl
    | some location => simp [redirects]
  have stays : ¬ LeadsOn net last := by
    intro leads
    obtain ⟨next, _, _, _, other, onward⟩ := leads
    rw [reply] at other
    cases other
    rw [ends] at onward
    cases onward
  refine ⟨status, success, ?_⟩
  rw [Client.getRoute delivers.isOpen delivers.route delivers.few stays, Client.arrival, reply]
  simp only [ends]
  rfl

theorem received (delivers : Delivers client net url path last body) {v : Json}
    (read : Json.ofBody net.nesting body = .ok v) :
    client.getJson net url = ⟨.ok v, sent (path ++ [last])⟩ := by
  obtain ⟨status, success, got⟩ := delivers.got
  have decoded : Client.decode net.nesting ⟨last, status, body⟩ = .pure v := by
    unfold Client.decode
    simp only [success, read, if_true]
  unfold Client.getJson
  rw [got, Attempt.bindOk, decoded]
  exact congrArg (Attempt.mk (.ok v)) (Trace.appendEmpty _)

theorem refused (delivers : Delivers client net url path last body) {t : Text} {digits : Nat}
    (read : Json.ofBody net.nesting body = .error (.text t (.longInteger digits))) :
    ∃ fault, (client.getJson net url).result = .error (.venue (.content fault)) := by
  obtain ⟨status, success, got⟩ := delivers.got
  unfold Client.getJson
  rw [got, Attempt.bindOk]
  unfold Client.decode
  simp only [success, read, if_true]
  exact ⟨_, rfl⟩

end Delivers

theorem getJsonExact {client : Client} {net : Network} {url last : Url} {path : List Url}
    {slot : Slot Json} {e : Encoding} {marked : Bool}
    (delivers : Delivers client net url path last (e.written marked slot.written))
    (spells : Spells slot.value slot.text) (exact : Exact 200 slot.value) :
    client.getJson net url = ⟨.ok slot.value, sent (path ++ [last])⟩ :=
  delivers.received (Json.ofBodySpelled spells exact net.roomy e marked)

def thousand : Slot Json := ⟨Json.noGap, .decimal (.finite false 1 3), .ofString "1E+3", Json.noGap⟩

def accented : Slot Json :=
  ⟨⟨.ofString "\t", by decide⟩, .string (.ofString "é\n"), .ofString "\"é\\n\"", Json.noGap⟩

def sampleBody : Slot Json :=
  ⟨⟨.ofString " ", by decide⟩, .array [thousand.value, accented.value],
    .ofString "[1E+3,\t\"é\\n\"]", ⟨.ofString "\n", by decide⟩⟩

def movedUrl : Url := ⟨"https", "", "api.kucoin.com", none, "/x", none, none⟩

def movedBody : Network :=
  (Network.silent.set .binance (.response 301 [] (some "https://api.kucoin.com/x"))).set .kucoin
    (.response 200 ((Encoding.utf16 .big).written true sampleBody.written) none)

theorem sampleSpells : Spells sampleBody.value sampleBody.text := by
  have text : sampleBody.text = .ofChar '[' ::
      (Json.listed Slot.written thousand [accented] ++ [.ofChar ']']) := by decide +kernel
  have number : thousand.text = .ofString (Decimal.toString (.finite false 1 3)) := by
    decide +kernel
  have string : Json.SpellsText (.ofString "é\n") accented.text :=
    ⟨.ofString "é\\n", .plain rfl rfl (by decide) (.escaped (.short (by decide)) .nil),
      by decide +kernel⟩
  have pointed : Spells thousand.value thousand.text := number ▸ .decimal false 1 3
  rw [text]
  exact .array thousand [accented]
    (List.forall_mem_cons.mpr ⟨pointed, List.forall_mem_singleton.mpr (.string string)⟩)

theorem sampleExact : Exact 200 sampleBody.value := by
  have modest : Decimal.isReadable 1 3 = true :=
    Decimal.readableModest (by decide) (by decide) (by decide)
  have scalar : Json.Scalar (.ofString "é\n") := by decide +kernel
  exact .array (List.forall_mem_cons.mpr
    ⟨.decimal (by decide) modest, List.forall_mem_singleton.mpr (.string scalar)⟩)

theorem movedBodyExact :
    Delivers ⟨true, false⟩ movedBody (Venue.binance.tickerUrl .usd)
        [Venue.binance.tickerUrl .usd] movedUrl
        ((Encoding.utf16 .big).written true sampleBody.written) ∧
      Spells sampleBody.value sampleBody.text ∧ Exact 200 sampleBody.value ∧
      Client.getJson ⟨true, false⟩ movedBody (Venue.binance.tickerUrl .usd) =
        ⟨.ok (.array [.decimal (.finite false 1 3), .string (.ofString "é\n")]),
          sent [Venue.binance.tickerUrl .usd, movedUrl]⟩ := by
  have leads : Leads movedBody (Venue.binance.tickerUrl .usd) movedUrl :=
    ⟨301, [], _, rfl, rfl⟩
  have delivers : Delivers ⟨true, false⟩ movedBody (Venue.binance.tickerUrl .usd)
      [Venue.binance.tickerUrl .usd] movedUrl
      ((Encoding.utf16 .big).written true sampleBody.written) :=
    ⟨rfl, .hop leads (.here movedUrl), by decide, 200, none, rfl, rfl⟩
  exact ⟨delivers, sampleSpells, sampleExact, getJsonExact delivers sampleSpells sampleExact⟩

end QuorumRate
