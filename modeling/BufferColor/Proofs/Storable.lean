import BufferColor.ConsoleLine
import BufferColor.Proofs.HexReading

/-! Colors that a buffer can hold, with an octet in every channel. The constructor gives such colors
only and takes all of their channels back; no other color has octets or a line on a console. -/
namespace BufferColor

section
variable {ε δ α β : Type}

theorem bindOk {x : Except ε α} {f : α → Except ε β} {b : β} :
    (x >>= f) = .ok b ↔ ∃ a, x = .ok a ∧ f a = .ok b := by
  cases x <;> simp [bind, Except.bind]

theorem mapOk {x : Except ε α} {f : α → β} {b : β} :
    x.map f = .ok b ↔ ∃ a, x = .ok a ∧ f a = b := by
  cases x <;> simp [Except.map]

theorem mapFailed {x : Except ε α} {f : α → β} {e : ε} : x.map f = .error e ↔ x = .error e := by
  cases x <;> simp [Except.map]

theorem givenMapError (a : α) (f : ε → δ) : (Except.ok a).mapError f = .ok a := rfl

theorem refusedMapError (e : ε) (f : ε → δ) :
    (Except.error e : Except ε α).mapError f = .error (f e) := rfl

theorem mapErrorOk {x : Except ε α} {f : ε → δ} {a : α} : x.mapError f = .ok a ↔ x = .ok a := by
  cases x <;> simp [givenMapError, refusedMapError]

theorem mapErrorFailed {x : Except ε α} {f : ε → δ} {e : δ} :
    x.mapError f = .error e ↔ ∃ cause, x = .error cause ∧ f cause = e := by
  cases x <;> simp [givenMapError, refusedMapError]

theorem toOptionSome {x : Except ε α} : x.toOption.isSome ↔ ∃ a, x = .ok a := by
  cases x <;> simp [Except.toOption]

end

namespace Channel

def Storable (channel : Channel) : Prop := IsOctet channel.level
instance (channel : Channel) : Decidable channel.Storable :=
  inferInstanceAs (Decidable (IsOctet channel.level))

theorem flagStorable (b : Bool) : (flag b).Storable := by
  cases b <;> decide

theorem valueInjective {a b : Channel} (same : a.value = b.value) : a = b := by
  cases a <;> cases b <;> simp_all [value]

theorem octetGiven {channel : Channel} (stored : channel.Storable) :
    ∃ octet, channel.octet? = some octet ∧ (octet.toNat : Int) = channel.level := by
  obtain ⟨low, high⟩ := stored
  refine ⟨UInt8.ofNat channel.level.toNat, if_pos ⟨low, high⟩, ?_⟩
  rw [UInt8.toNat_ofNat_of_lt' (by simp only [UInt8.size]; omega)]
  omega

theorem octetSource {channel : Channel} {octet : UInt8} (given : channel.octet? = some octet) :
    channel.Storable := by
  unfold octet? at given
  split at given
  · assumption
  · contradiction

end Channel

theorem Component.channelRead {component : Component} {value : Value} {channel : Channel} :
    component.channelOf value = .ok channel ↔ value = channel.value ∧ channel.Storable := by
  constructor
  · intro read
    unfold channelOf at read
    split at read
    · split at read
      · rename_i fits
        cases read
        exact ⟨rfl, fits⟩
      · contradiction
    · cases read
      exact ⟨rfl, Channel.flagStorable _⟩
    · contradiction
  · intro ⟨same, fits⟩
    subst same
    cases channel with
    | int n => exact if_pos fits
    | flag b => rfl

namespace Color

def Storable (c : Color) : Prop := ∀ channel ∈ c.channels, channel.Storable

theorem storableChannels {c : Color} : c.Storable ↔
    c.red.Storable ∧ c.green.Storable ∧ c.blue.Storable ∧ c.alpha.Storable := by
  simp [Storable, channels]

theorem storableChannel {c : Color} (stored : c.Storable) (component : Component) :
    (c.channel component).Storable := by
  obtain ⟨red, green, blue, alpha⟩ := storableChannels.mp stored
  cases component <;> assumption

theorem storableSame {c d : Color} (same : d.levels = c.levels) : d.Storable ↔ c.Storable := by
  have byLevels (e : Color) : e.Storable ↔ ∀ n ∈ e.levels, IsOctet n := by
    simp only [levels, List.forall_mem_map]
    rfl
  rw [byLevels, byLevels, same]

theorem storableExchanged {c : Color} : c.exchanged.Storable ↔ c.Storable := by
  rw [storableChannels, storableChannels]
  exact ⟨fun ⟨blue, green, red, alpha⟩ => ⟨red, green, blue, alpha⟩,
    fun ⟨red, green, blue, alpha⟩ => ⟨blue, green, red, alpha⟩⟩

theorem exchangedLevels {c d : Color} (same : d.levels = c.levels) :
    d.exchanged.levels = c.exchanged.levels := by
  obtain ⟨red, green, blue, alpha⟩ := levelsSame.mp same
  exact levelsSame.mpr ⟨blue, green, red, alpha⟩

theorem meantStorable {r g b a : Int} :
    (ofMeant r g b a).Storable ↔ IsOctet r ∧ IsOctet g ∧ IsOctet b ∧ IsOctet a := by
  rw [← storableExchanged, storableChannels]
  rfl

theorem componentsRead {red green blue alpha : Value} {c : Color} :
    ofComponents red green blue alpha = .ok c ↔ c.Storable ∧ red = c.blue.value ∧
      green = c.green.value ∧ blue = c.red.value ∧ alpha = c.alpha.value := by
  simp only [ofComponents, bindOk, Component.channelRead, storableChannels]
  constructor
  · intro made
    obtain ⟨_, ⟨rfl, red⟩, _, ⟨rfl, green⟩, _, ⟨rfl, blue⟩, _, ⟨rfl, alpha⟩, last⟩ := made
    cases last
    exact ⟨⟨blue, green, red, alpha⟩, rfl, rfl, rfl, rfl⟩
  · intro source
    obtain ⟨⟨red, green, blue, alpha⟩, rfl, rfl, rfl, rfl⟩ := source
    exact ⟨_, ⟨rfl, blue⟩, _, ⟨rfl, green⟩, _, ⟨rfl, red⟩, _, ⟨rfl, alpha⟩, rfl⟩

theorem channelsRead {red green blue alpha : Channel} {c : Color} :
    ofComponents red.value green.value blue.value alpha.value = .ok c ↔
      c.Storable ∧ c = ⟨blue, green, red, alpha⟩ := by
  rw [componentsRead]
  constructor
  · intro ⟨stored, atRed, atGreen, atBlue, atAlpha⟩
    rw [Channel.valueInjective atRed, Channel.valueInjective atGreen,
      Channel.valueInjective atBlue, Channel.valueInjective atAlpha]
    exact ⟨stored, rfl⟩
  · intro ⟨stored, same⟩
    subst same
    exact ⟨stored, rfl, rfl, rfl, rfl⟩

theorem componentsStorable {red green blue alpha : Value} {c : Color}
    (made : ofComponents red green blue alpha = .ok c) : c.Storable :=
  (componentsRead.mp made).1

theorem readStorable {read : List Char → Except ComponentError (Option Color)}
    {means : Int → Int → Int → Int → List Char → Prop} (reads : Reads read means)
    (octets : ∀ {r g b a cs}, means r g b a cs →
      IsOctet r ∧ IsOctet g ∧ IsOctet b ∧ IsOctet a)
    {cs : List Char} {c : Color} (given : read cs = .ok (some c)) : c.Storable := by
  obtain ⟨r, g, b, a, spelled, same⟩ := readsColor reads given
  rw [same]
  exact meantStorable.mpr (octets spelled)

def ofOctets (red green blue alpha : UInt8) : Color :=
  ⟨.int red.toNat, .int green.toNat, .int blue.toNat, .int alpha.toNat⟩

theorem octetsGiven {c : Color} (stored : c.Storable) :
    ∃ red green blue alpha, c.octets? = some [red, green, blue, alpha] ∧
      (ofOctets red green blue alpha).levels = c.levels := by
  obtain ⟨red, green, blue, alpha⟩ := storableChannels.mp stored
  obtain ⟨r, givenR, atRed⟩ := Channel.octetGiven red
  obtain ⟨g, givenG, atGreen⟩ := Channel.octetGiven green
  obtain ⟨b, givenB, atBlue⟩ := Channel.octetGiven blue
  obtain ⟨a, givenA, atAlpha⟩ := Channel.octetGiven alpha
  refine ⟨r, g, b, a, ?_, ?_⟩
  · simp [octets?, givenR, givenG, givenB, givenA]
  · change [(r.toNat : Int), (g.toNat : Int), (b.toNat : Int), (a.toNat : Int)] = c.levels
    rw [atRed, atGreen, atBlue, atAlpha]
    rfl

theorem octetsOpen {c : Color} : c.octets?.isSome ↔ c.Storable := by
  constructor
  · intro given
    obtain ⟨octets, given⟩ := Option.isSome_iff_exists.mp given
    simp only [octets?, bind, Option.bind_eq_some_iff] at given
    obtain ⟨r, red, g, green, b, blue, a, alpha, _⟩ := given
    exact storableChannels.mpr ⟨Channel.octetSource red, Channel.octetSource green,
      Channel.octetSource blue, Channel.octetSource alpha⟩
  · intro stored
    obtain ⟨r, g, b, a, given, _⟩ := octetsGiven stored
    rw [given]
    rfl

theorem lineOpen {terminal : Terminal} {c : Color} {description : String} :
    (consoleLine? terminal c description).isSome ↔ c.Storable := by
  rw [← octetsOpen, consoleLine?, ConsoleLine.chars?, Option.isSome_map, Option.isSome_map]

theorem outputOpen {terminal : Terminal} {c : Color} {description : String} :
    (consoleOutput? terminal c description).isSome ↔ c.Storable := by
  rw [← octetsOpen, consoleOutput?, ConsoleLine.chars?, Option.isSome_map, Option.isSome_map]

end Color
end BufferColor
