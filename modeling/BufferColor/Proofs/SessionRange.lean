import BufferColor.Proofs.Detour
import BufferColor.Proofs.PaletteKeys
import BufferColor.Session

/-! Sessions that begin without a color and pass to their calls only colors that earlier calls of
them gave. All of their colors are storable, and the constructor refuses nothing to any call but
one that hands components to it. -/
namespace BufferColor

namespace Call

def colors : Call → List Color
  | ofComponents red green blue alpha => red.colors ++ green.colors ++ blue.colors ++ alpha.colors
  | ofPacked _ => []
  | ofHexText _ => []
  | ofRgbText _ => []
  | ofArgbText _ => []
  | octet _ => []
  | ofValue value => value.colors
  | describe c => [c]
  | compare a b => a.colors ++ b.colors
  | palette cs => cs
  | assign c _ value => c :: value.colors
  | delete c _ => [c]
  | consoleLine c _ => [c]
  | consoleOutput c _ => [c]
  | refuse _ value => value.colors
  | release => []

def reads : Call → Bool
  | ofPacked _ => true
  | ofHexText _ => true
  | ofRgbText _ => true
  | ofArgbText _ => true
  | octet _ => true
  | _ => false

end Call

namespace Outcome

def colors : Outcome → List Color
  | color c => c.toList
  | converted c _ => [c]
  | description c => [c]
  | palette cs => cs
  | _ => []

end Outcome

namespace Call
open Color (readStorable)

variable {packages : Packages}

theorem readOutcome {found : Except ComponentError (Option Color)} {result : Outcome}
    (given : (found.mapError Failure.component).map Outcome.color = .ok result) :
    ∃ color, found = .ok color ∧ result = .color color := by
  obtain ⟨color, read, same⟩ := mapOk.mp given
  exact ⟨color, mapErrorOk.mp read, same.symm⟩

theorem outcomeStorable {call : Call} {result : Outcome} (colors : ∀ c ∈ call.colors, c.Storable)
    (given : call.outcome packages = .ok result) : ∀ c ∈ result.colors, c.Storable := by
  intro c mem
  cases call with
  | ofComponents red green blue alpha =>
    obtain ⟨d, made, rfl⟩ := mapOk.mp given
    obtain rfl : c = d := by simpa [Outcome.colors] using mem
    exact Color.componentsStorable (mapErrorOk.mp made)
  | ofPacked n =>
    obtain ⟨d, made, rfl⟩ := mapOk.mp given
    obtain rfl : c = d := by simpa [Outcome.colors] using mem
    exact Color.componentsStorable (mapErrorOk.mp made)
  | ofHexText text =>
    obtain ⟨color, read, rfl⟩ := readOutcome given
    obtain rfl : color = some c := by simpa [Outcome.colors] using mem
    exact readStorable Color.hexReads Color.bodyOctets read
  | ofRgbText text =>
    obtain ⟨color, read, rfl⟩ := readOutcome given
    obtain rfl : color = some c := by simpa [Outcome.colors] using mem
    exact readStorable Color.rgbReads (fun spelled => Color.bodyOctets (.inl spelled)) read
  | ofArgbText text =>
    obtain ⟨color, read, rfl⟩ := readOutcome given
    obtain rfl : color = some c := by simpa [Outcome.colors] using mem
    exact readStorable Color.argbReads (fun spelled => Color.bodyOctets (.inr spelled)) read
  | octet text =>
    cases given
    simp [Outcome.colors] at mem
  | ofValue value =>
    obtain ⟨d, made, rfl⟩ := mapOk.mp given
    obtain rfl : c = d := by simpa [Outcome.colors] using mem
    exact Color.valueStorable colors made
  | describe d =>
    cases given
    exact colors c mem
  | compare a b =>
    obtain ⟨shared, _, rfl⟩ := mapOk.mp given
    simp [Outcome.colors] at mem
  | palette cs =>
    cases given
    exact colors c (Palette.keySource (Palette.keysOfList cs) mem)
  | assign d name value => contradiction
  | delete d name => contradiction
  | consoleLine d description =>
    obtain ⟨text, _, rfl⟩ := mapOk.mp given
    simp [Outcome.colors] at mem
  | consoleOutput d description =>
    obtain ⟨text, _, rfl⟩ := mapOk.mp given
    simp [Outcome.colors] at mem
  | refuse message value => contradiction
  | release =>
    cases given
    simp [Outcome.colors] at mem

theorem readingNeverFails {call : Call} (reading : call.reads = true) :
    ∃ result, call.outcome packages = .ok result := by
  cases call with
  | ofPacked n =>
    rw [outcome, Color.packedStored]
    exact ⟨_, rfl⟩
  | ofHexText text =>
    obtain ⟨found, read⟩ := Color.readsNeverFails Color.hexReads text.toList
    rw [outcome, Color.ofHexText, read]
    exact ⟨_, rfl⟩
  | ofRgbText text =>
    obtain ⟨found, read⟩ := Color.readsNeverFails Color.rgbReads text.toList
    rw [outcome, Color.ofRgbText, read]
    exact ⟨_, rfl⟩
  | ofArgbText text =>
    obtain ⟨found, read⟩ := Color.readsNeverFails Color.argbReads text.toList
    rw [outcome, Color.ofArgbText, read]
    exact ⟨_, rfl⟩
  | octet text => exact ⟨_, rfl⟩
  | _ => contradiction

theorem conversionRefusal {value : Value} {e : ComponentError} :
    (ofValue value).outcome packages ≠ .error (.component e) := by
  intro failed
  rcases Color.valueFailure (mapFailed.mp failed) with ⟨cause, same⟩ | ⟨text, kind, _, same⟩
  · contradiction
  · contradiction

theorem storedFailure {text : Option String} {e : Failure} (failed : stored text = .error e) :
    e = .noOctets := by
  cases text with
  | some text => cases failed
  | none => cases failed; rfl

theorem componentFailure {call : Call} {e : ComponentError}
    (failed : call.outcome packages = .error (.component e)) :
    ∃ red green blue alpha, call = ofComponents red green blue alpha := by
  have refused : call.reads = false := by
    cases reading : call.reads with
    | false => rfl
    | true =>
      obtain ⟨result, given⟩ : ∃ result, call.outcome packages = .ok result :=
        readingNeverFails reading
      rw [given] at failed
      cases failed
  cases call with
  | ofComponents red green blue alpha => exact ⟨red, green, blue, alpha, rfl⟩
  | ofValue value => exact absurd failed conversionRefusal
  | compare a b =>
    obtain ⟨kind, _, same⟩ := mapErrorFailed.mp (mapFailed.mp failed)
    contradiction
  | consoleLine c description => cases storedFailure (mapFailed.mp failed)
  | consoleOutput c description => cases storedFailure (mapFailed.mp failed)
  | describe c => cases failed
  | palette cs => cases failed
  | assign c name value => cases failed
  | delete c name => cases failed
  | refuse message value => cases failed
  | release => cases failed
  | _ => contradiction

end Call

namespace Session

def colors (session : Session) : List Color :=
  session.results.flatMap fun result =>
    match result with
    | .ok outcome => outcome.colors
    | .error _ => []

def Storable (session : Session) : Prop := ∀ c ∈ session.colors, c.Storable

/- Calls after a session, each of which is given only colors that the session gave before it. -/
inductive Sourced (packages : Packages) : Session → List Call → Prop where
  | nil {session : Session} : Sourced packages session []
  | cons {session : Session} {call : Call} {calls : List Call}
      (given : ∀ c ∈ call.colors, c ∈ session.colors)
      (rest : Sourced packages (session.perform packages call) calls) :
      Sourced packages session (call :: calls)

variable {packages : Packages}

theorem performColors {session : Session} {call : Call} {c : Color}
    (mem : c ∈ (session.perform packages call).colors) :
    c ∈ session.colors ∨ ∃ result, call.outcome packages = .ok result ∧ c ∈ result.colors := by
  simp only [colors, perform, List.flatMap_append, List.mem_append] at mem
  rcases mem with before | now
  · exact .inl before
  · cases given : call.outcome packages with
    | ok result => exact .inr ⟨result, rfl, by simpa [given] using now⟩
    | error e => simp [given] at now

theorem performStorable {session : Session} {call : Call} (valid : session.Storable)
    (given : ∀ c ∈ call.colors, c ∈ session.colors) : (session.perform packages call).Storable := by
  intro c mem
  rcases performColors mem with before | ⟨result, done, now⟩
  · exact valid c before
  · exact Call.outcomeStorable (fun d inside => valid d (given d inside)) done c now

theorem foldStorable {session : Session} {calls : List Call} (sourced : Sourced packages session calls)
    (valid : session.Storable) : (calls.foldl (perform packages) session).Storable := by
  induction sourced with
  | nil => exact valid
  | cons given rest ih => exact ih (performStorable valid given)

end Session

namespace Color
open Numeral (hexPlaces)

theorem storablePlaces {c : Color} (stored : c.Storable) :
    c.places.length = 8 ∧ ∀ x ∈ c.places, x ∈ Hex.capitals := by
  have spelled := placesSpelling stored
  refine ⟨Hex.spellingLength spelled, ?_⟩
  intro x mem
  rcases c.placesChars x mem with rfl | capital
  · exact absurd (Hex.spellingDigits spelled _ mem) Hex.signUnlisted
  · exact capital

end Color

/-- In a session that passes on its own colors only, each color has an octet in every channel, and
so all that is done with colors is done with it without a failure: it has four octets, lines for the
console, a text of eight digits, and channels that make colors in any order. Reading never fails,
and the constructor refuses components to nothing but the call that hands them to it. -/
theorem sessionInRange {packages : Packages} {calls : List Call}
    (sourced : Session.Sourced packages .empty calls) :
    (∀ c ∈ (Session.run packages calls).colors,
      (∀ component, IsOctet (c.channel component).level) ∧
      (∃ octets, c.octets? = some octets ∧ octets.length = 4) ∧
      (∀ description, (consoleLine? packages.terminal c description).isSome = true ∧
        (consoleOutput? packages.terminal c description).isSome = true) ∧
      (∃ digits, c.hex.toList = '#' :: digits ∧ digits.length = 8 ∧
        ∀ x ∈ digits, x ∈ Hex.capitals) ∧
      ∀ p q r s : Component, ∃ d, Color.ofComponents (c.channel p).value (c.channel q).value
        (c.channel r).value (c.channel s).value = .ok d) ∧
    (∀ call : Call, call.reads = true → ∃ result, call.outcome packages = .ok result) ∧
    (∀ (call : Call) (e : ComponentError), call.outcome packages = .error (.component e) →
      ∃ red green blue alpha, call = .ofComponents red green blue alpha) ∧
    (∀ name rgb, Color.componentsOfName packages.names name = .ok rgb →
      (IsOctet rgb.red ∧ IsOctet rgb.green ∧ IsOctet rgb.blue) ∧ ∃ c, Color.ofRgb rgb = .ok c) := by
  refine ⟨?colors, fun call => Call.readingNeverFails, fun call e => Call.componentFailure,
    fun name rgb found => ⟨Color.namedOctets found, _, Color.namedStored found⟩⟩
  case colors =>
    intro c mem
    have empty : Session.empty.Storable := by simp [Session.Storable, Session.colors, Session.empty]
    have stored : c.Storable := Session.foldStorable sourced empty c mem
    refine ⟨Color.storableChannel stored, ?octets, ?lines, ?text, ?channels⟩
    case octets =>
      obtain ⟨red, green, blue, alpha, given, _⟩ := Color.octetsGiven stored
      exact ⟨_, given, rfl⟩
    case lines => exact fun description => ⟨Color.lineOpen.mpr stored, Color.outputOpen.mpr stored⟩
    case text =>
      obtain ⟨eight, capitals⟩ := Color.storablePlaces stored
      exact ⟨c.places, String.toList_ofList, eight, capitals⟩
    case channels =>
      intro p q r s
      refine ⟨⟨c.channel r, c.channel q, c.channel p, c.channel s⟩, Color.channelsRead.mpr ⟨?_, rfl⟩⟩
      exact Color.storableChannels.mpr ⟨Color.storableChannel stored r, Color.storableChannel stored q,
        Color.storableChannel stored p, Color.storableChannel stored s⟩

/-- A color of all ones, handed on alone and within a refused tuple. -/
theorem sessionOfHandedColor :
    Session.Sourced .standard .empty [.ofPacked (-1), .ofValue (.color (Color.ofMeant 255 255 255 255)),
      .ofValue (.tuple [.color (Color.ofMeant 255 255 255 255), .int 300, .null])] ∧
    ∀ component, IsOctet ((Color.ofMeant 255 255 255 255).channel component).level := by
  have sourced : Session.Sourced .standard .empty
      [.ofPacked (-1), .ofValue (.color (Color.ofMeant 255 255 255 255)),
        .ofValue (.tuple [.color (Color.ofMeant 255 255 255 255), .int 300, .null])] := by
    refine .cons ?_ (.cons ?_ (.cons ?_ .nil))
    · simp [Call.colors]
    · exact fun c mem => mem
    · intro c mem
      exact List.mem_append_left [Color.ofMeant 255 255 255 255] mem
  have mem : Color.ofMeant 255 255 255 255 ∈
      [Color.ofMeant 255 255 255 255, Color.ofMeant 255 255 255 255] := by simp
  exact ⟨sourced, ((sessionInRange sourced).1 _ mem).1⟩

end BufferColor
