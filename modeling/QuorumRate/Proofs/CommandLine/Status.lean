import QuorumRate.Proofs.CommandLine.Timeouts
import QuorumRate.Proofs.Session.Lifecycle
import QuorumRate.Proofs.Session.Outcome

/-! The exit statuses of a run that gets as far as asking for a rate. They tell apart whether there
is one, whether every venue failed and whether the currency is one that no venue is asked for. -/
namespace QuorumRate.CommandLine

structure Asks (env : Environment) (arguments : List String) (currency : String)
    (proxy : Option String) : Prop where
  parsed : ∃ start fetchTimeout connectTimeout verbose, defaults env = .ok start ∧
    read start arguments = .ok (.choices
      ⟨.value currency, .value proxy, .value fetchTimeout, .value connectTimeout, verbose⟩) ∧
    fetchTimeout.Positive ∧ connectTimeout.Positive
  accepted : ∀ address, proxy = some address → Settings.proxyFailure? address = none

def opened (picks : List Int) : Session := ⟨true, ⟨true, false⟩, picks⟩

theorem concludeLeaves (currency : String) (client : ClientRecord) (run : RateRun)
    (left : Session) : (conclude currency client run left).left = some left := by
  unfold conclude
  dsimp only
  split <;> rfl

section
variable {env : Environment} {arguments : List String} {currency : String} {proxy : Option String}

theorem startAccepted
    (accepted : ∀ address, proxy = some address → Settings.proxyFailure? address = none)
    (timeout connectTimeout : Seconds) (picks : List Int) :
    Session.start ⟨true, proxy, timeout, connectTimeout⟩ picks = .ok (opened picks) :=
  Session.startIff.mpr ⟨Settings.checkOk.mpr fun address given => ⟨rfl, accepted address given⟩, rfl⟩

theorem Asks.prepared (asks : Asks env arguments currency proxy) :
    ∃ fetchTimeout connectTimeout verbose, prepare env arguments =
      .ok ⟨.value currency, .value proxy, fetchTimeout, connectTimeout, verbose⟩ := by
  obtain ⟨start, fetchTimeout, connectTimeout, verbose, begun, parsed, fetch, connect⟩ :=
    asks.parsed
  refine ⟨fetchTimeout, connectTimeout, verbose, ?_⟩
  unfold prepare
  rw [begun]
  dsimp only
  rw [parsed]
  unfold Choices.call
  dsimp only
  rw [guardedValue, guardedValue, (Binary64.acceptedIff _).mpr (.inl fetch),
    (Binary64.acceptedIff _).mpr (.inl connect)]
  rfl

theorem Asks.concludes (asks : Asks env arguments currency proxy) (net : Network)
    (picks : List Int) :
    ∃ client, (run env arguments net picks false).ending =
        (conclude currency client ((opened picks).getRate net (Text.ofString currency)).1
          ((opened picks).getRate net (Text.ofString currency)).2.close).ending ∧
      (run env arguments net picks false).left =
        some ((opened picks).getRate net (Text.ofString currency)).2.close := by
  obtain ⟨fetchTimeout, connectTimeout, verbose, prepared⟩ := asks.prepared
  rw [runPrepared, prepared]
  dsimp only [proceed]
  unfold Call.run fetchRate
  rw [if_neg Bool.false_ne_true]
  dsimp only
  rw [startAccepted asks.accepted]
  exact ⟨_, rfl, concludeLeaves ..⟩

end

structure Partitions (net : Network) (picks : List Int) (currency : String) (run : Run)
    (ending : Ending) : Prop where
  ended : run.ending = .ok ending
  quoted : ending.status = 0 ↔ ∃ pair, Pair.ofCurrency? (Text.ofString currency) = some pair ∧
    ∃ (v : Venue) (quote : Quote), (v.fetch (opened picks).client net pair).result = .ok quote
  failed : ending.status = 1 ↔ ∃ pair, Pair.ofCurrency? (Text.ofString currency) = some pair ∧
    ∀ v : Venue, ∃ fault, (v.fetch (opened picks).client net pair).result = .error (.venue fault)
  unsupported : ending.status = 2 ↔ Pair.ofCurrency? (Text.ofString currency) = none
  printed : ending.status = 0 → ∃ rate line,
    ((opened picks).getRate net (Text.ofString currency)).1.result = .ok (some rate) ∧
      ending.output = line ++ "\n" ∧ '\n' ∉ line.toList ∧
      Decimal.ofText? (Text.ofString line) = some rate
  silent : ending.status ≠ 0 → ending.output = ""
  unasked : ending.status = 2 → ending.requests = []
  closed : ∃ left, run.left = some left ∧ left.isOwned = true ∧ left.client.isClosed = true

theorem runPartitions {env : Environment} {arguments : List String} {currency : String}
    {proxy : Option String} (asks : Asks env arguments currency proxy) {net : Network}
    (picks : List Int) (answered : Session.Answered (opened picks).client net) :
    ∃ ending, Partitions net picks currency (run env arguments net picks false) ending := by
  obtain ⟨client, ended, left⟩ := asks.concludes net picks
  have closed : ∃ left, (run env arguments net picks false).left = some left ∧
      left.isOwned = true ∧ left.client.isClosed = true := ⟨_, left, rfl, rfl⟩
  unfold conclude at ended
  dsimp only at ended
  cases (opened picks).getRateRated answered (Text.ofString currency) with
  | unsupported foreign result silent =>
    rw [result] at ended
    refine ⟨_, ended, ?_, ?_, ?_, nofun, fun _ => rfl, fun _ => silent, closed⟩
    · exact iff_of_false nofun fun ⟨_, supported, _⟩ => nomatch foreign.symm.trans supported
    · exact iff_of_false nofun fun ⟨_, supported, _⟩ => nomatch foreign.symm.trans supported
    · exact iff_of_true rfl foreign
  | quoted supported some result legible =>
    rw [result] at ended
    refine ⟨_, ended, ?_, ?_, ?_, ?_, fun failed => absurd rfl failed, nofun, closed⟩
    · exact iff_of_true rfl ⟨_, supported, some⟩
    · refine iff_of_false nofun ?_
      rintro ⟨other, same, all⟩
      cases supported.symm.trans same
      exact Session.votesApart some all
    · exact iff_of_false nofun fun foreign => nomatch foreign.symm.trans supported
    · exact fun _ => ⟨_, _, result, rfl, legible.line, legible.read⟩
  | failed supported all result =>
    rw [result] at ended
    refine ⟨_, ended, ?_, ?_, ?_, nofun, fun _ => rfl, nofun, closed⟩
    · refine iff_of_false nofun ?_
      rintro ⟨other, same, some⟩
      cases supported.symm.trans same
      exact Session.votesApart some all
    · exact iff_of_true rfl ⟨_, supported, all⟩
    · exact iff_of_false nofun fun foreign => nomatch foreign.symm.trans supported

def zeroQuotes : Network :=
  Network.silent.set .gemini
    (.response 200 "\x7b\"bid\": \"0E+9\", \"ask\": \"0E+7\"\x7d".toUTF8.toList none)

theorem zeroRatePartitions :
    Asks .unset ["--currency", " Usd "] " Usd " none ∧
      Session.Answered (opened []).client zeroQuotes ∧
      ∃ ending, Partitions zeroQuotes [] " Usd "
          (run .unset ["--currency", " Usd "] zeroQuotes [] false) ending ∧
        ending.status = 0 ∧ ending.output = "0E+7\n" := by
  have asks : Asks .unset ["--currency", " Usd "] " Usd " none := by
    let ten : Binary64 := .finite false 5629499534213120 (-49)
    have positive : ten.Positive := ((Binary64.acceptedIff ten).mp rfl).resolve_right nofun
    have begun : defaults .unset =
        .ok ⟨.value "usd", .value none, .value ten, .value ten, false⟩ := by decide +kernel
    have parsed : read ⟨.value "usd", .value none, .value ten, .value ten, false⟩
          ["--currency", " Usd "] =
        .ok (.choices ⟨.value " Usd ", .value none, .value ten, .value ten, false⟩) := rfl
    exact ⟨⟨_, ten, ten, _, begun, parsed, positive, positive⟩, nofun⟩
  have answered : Session.Answered (opened []).client zeroQuotes := by
    rintro ⟨⟩ v
    refine Panel.outcomeAnswers ?_
    cases v <;> decide +kernel
  have zero : (run .unset ["--currency", " Usd "] zeroQuotes [] false).ending.toOption.map
      (fun ending => (ending.status, ending.output)) = some (0, "0E+7\n") := by decide +kernel
  obtain ⟨ending, partitions⟩ := runPartitions asks [] answered
  rw [partitions.ended] at zero
  obtain ⟨status, output⟩ := Prod.mk.inj (Option.some.inj zero)
  exact ⟨asks, answered, ending, partitions, status, output⟩

end QuorumRate.CommandLine
