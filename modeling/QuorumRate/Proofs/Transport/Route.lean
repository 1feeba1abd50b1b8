import QuorumRate.Proofs.Transport.Chain

/-! Where a request ends up. Redirects lead from one address to the next, perhaps in a circle; a
client that follows them sends one request to each address of its route, until it comes to one that
leads nowhere or has spent its redirects. -/
namespace QuorumRate
open Client (Response)

def Leads (net : Network) (here next : Url) : Prop :=
  ∃ status body location, net.reply here = .answer status body location ∧
    Client.next? here status location = .ok (some next)

def LeadsOn (net : Network) (here : Url) : Prop := ∃ next, Leads net here next

/-- The addresses that redirects lead over, from one address up to before another one. -/
inductive Route (net : Network) : Url → List Url → Url → Prop
  | here (url : Url) : Route net url [] url
  | hop {url next path last} (lead : Leads net url next) (further : Route net next path last) :
      Route net url (url :: path) last

def sent (urls : List Url) : Trace := ⟨urls.map fun url => "GET " ++ url.text, []⟩

theorem sentAppend (first second : List Url) :
    sent (first ++ second) = sent first ++ sent second := by
  simp only [sent, List.map_append]
  rfl

namespace Client

def arrival (net : Network) (url : Url) : Except Failure Response :=
  match net.reply url with
  | .timeout text => .error (.venue (.timeout text))
  | .broken text => .error (.venue (.unreachable text))
  | .refused refusal text => .error (.refused refusal text)
  | .unwritable place => .error (.beyondAscii place)
  | .answer status body location =>
    (next? url status location).map fun _ => ⟨url, status, body⟩

def exceeded : Failure := .venue (.unreachable "Exceeded maximum allowed redirects.")

theorem requestSent (net : Network) (url : Url) :
    request net url = ⟨(request net url).result, sent [url]⟩ := by
  unfold request
  cases net.reply url <;> rfl

theorem requestLead {net : Network} {url next : Url} (lead : Leads net url next) :
    ∃ response, request net url = ⟨.ok (response, some next), sent [url]⟩ := by
  obtain ⟨status, body, location, reply, leads⟩ := lead
  refine ⟨⟨url, status, body⟩, ?_⟩
  rw [requestSent, requestOk.mpr ⟨status, body, location, reply, leads, rfl⟩]

theorem requestArrival {net : Network} {url : Url} (stays : ¬ LeadsOn net url) :
    request net url = ⟨(arrival net url).map (·, none), sent [url]⟩ := by
  rw [requestSent, requestResult]
  unfold arrival
  cases reply : net.reply url with
  | timeout text => rfl
  | broken text => rfl
  | refused refusal text => rfl
  | unwritable place => rfl
  | answer status body location =>
    dsimp only
    cases leads : next? url status location with
    | error failure => rfl
    | ok next =>
      cases next with
      | none => rfl
      | some next => exact absurd ⟨next, status, body, location, reply, leads⟩ stays

theorem followStops {net : Network} {url : Url} (stays : ¬ LeadsOn net url) (left : Nat) :
    follow net left url = ⟨arrival net url, sent [url]⟩ := by
  cases left <;> rw [follow, requestArrival stays] <;> cases arrival net url <;> rfl

theorem followSpent {net : Network} {url : Url} (leads : LeadsOn net url) :
    follow net 0 url = ⟨.error exceeded, sent [url]⟩ := by
  obtain ⟨next, lead⟩ := leads
  obtain ⟨response, request⟩ := requestLead lead
  rw [follow, request]
  rfl

theorem followHop {net : Network} {url next : Url} (lead : Leads net url next) (left : Nat) :
    follow net (left + 1) url = .after (sent [url]) (follow net left next) := by
  obtain ⟨response, request⟩ := requestLead lead
  rw [follow, request]
  rfl

theorem followRoute {net : Network} {url last : Url} {path : List Url}
    (route : Route net url path last) (left : Nat) :
    follow net (path.length + left) url = .after (sent path) (follow net left last) := by
  induction route with
  | here url =>
    rw [List.length_nil, Nat.zero_add]
    rfl
  | @hop url next path last lead further ih =>
    rw [List.length_cons, Nat.add_right_comm, followHop lead, ih, Attempt.afterAfter, ← sentAppend]
    rfl

theorem routeExists (net : Network) (left : Nat) (url : Url) :
    ∃ path last, Route net url path last ∧ path.length ≤ left ∧
      (LeadsOn net last → path.length = left) := by
  -- The redirects that are left bound the path, so it ends on a circle too.
  induction left generalizing url with
  | zero => exact ⟨[], url, .here url, Nat.le_refl 0, fun _ => rfl⟩
  | succ left ih =>
    by_cases leads : LeadsOn net url
    · obtain ⟨next, lead⟩ := leads
      obtain ⟨path, last, further, short, spent⟩ := ih next
      exact ⟨url :: path, last, .hop lead further, Nat.succ_le_succ short,
        fun on => congrArg (· + 1) (spent on)⟩
    · exact ⟨[], url, .here url, Nat.zero_le _, fun on => absurd on leads⟩

section
variable {client : Client}

theorem getBorrowed (isOpen : client.isClosed = false) (borrowed : client.follows = false)
    (net : Network) (url : Url) : client.get net url = ⟨arrival net url, sent [url]⟩ := by
  unfold get
  rw [isOpen, borrowed, if_neg Bool.false_ne_true, if_neg Bool.false_ne_true, requestSent,
    requestResult]
  unfold arrival
  cases net.reply url with
  | answer status body location =>
    dsimp only
    cases next? url status location <;> rfl
  | _ => rfl

theorem getOwned (isOpen : client.isClosed = false) (owned : client.follows = true)
    (net : Network) (url : Url) : client.get net url = follow net maxRedirects url := by
  unfold get
  rw [isOpen, owned, if_neg Bool.false_ne_true, if_pos rfl]

theorem getRoute {net : Network} {url last : Url} {path : List Url}
    (isOpen : client.isClosed = false) (route : Route net url path last)
    (few : path.length ≤ client.hops) (stays : ¬ LeadsOn net last) :
    client.get net url = ⟨arrival net last, sent (path ++ [last])⟩ := by
  unfold hops at few
  by_cases owned : client.follows = true
  · rw [if_pos owned] at few
    rw [getOwned isOpen owned, ← Nat.add_sub_cancel' few, followRoute route, followStops stays,
      sentAppend]
    rfl
  · rw [if_neg owned] at few
    rw [getBorrowed isOpen (Bool.eq_false_iff.mpr owned)]
    cases route with
    | here => rfl
    | hop lead further => exact absurd few (by simp)

end

end Client
end QuorumRate
