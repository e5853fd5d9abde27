import BufferColor.Proofs.Storable

/-! Which component is reported. The components are checked one after the other, so the first that
does not fit decides the error, for what is wrong with it alone; what comes after it is not looked at. -/
namespace BufferColor

inductive Counts : Value → Int → Prop where
  | int (n : Int) : Counts (.int n) n
  | flag (b : Bool) : Counts (.bool b) (Channel.flag b).level

def Fits (value : Value) : Prop := ∃ level, Counts value level ∧ IsOctet level

theorem countsChannel {value : Value} {level : Int} :
    Counts value level ↔ ∃ channel : Channel, value = channel.value ∧ channel.level = level := by
  constructor
  · intro counts
    cases counts with
    | int => exact ⟨.int level, rfl, rfl⟩
    | flag b => exact ⟨.flag b, rfl, rfl⟩
  · rintro ⟨channel, rfl, rfl⟩
    cases channel with
    | int n => exact .int n
    | flag b => exact .flag b

theorem fitsRead {component : Component} {value : Value} :
    Fits value ↔ ∃ channel, component.channelOf value = .ok channel := by
  simp only [Component.channelRead]
  constructor
  · intro ⟨level, counts, octet⟩
    obtain ⟨channel, same, rfl⟩ := countsChannel.mp counts
    exact ⟨channel, same, octet⟩
  · intro ⟨channel, same, stored⟩
    exact ⟨channel.level, countsChannel.mpr ⟨channel, same, rfl⟩, stored⟩

namespace ComponentError

theorem notIntegerMessage (component : Component) (value : Value) :
    (notInteger component value).message = component.name ++
      " component must be an integer, got " ++ String.ofList value.written := by
  rw [message, messageChars, String.ofList_append, String.ofList_append, String.ofList_toList,
    String.ofList_toList]

theorem outOfRangeMessage (component : Component) (level : Int) :
    (outOfRange component level).message = component.name ++
      " component must be in [0; 255], got " ++ String.ofList (Numeral.decimal level) := by
  rw [message, messageChars, String.ofList_append, String.ofList_append, String.ofList_toList,
    String.ofList_toList]

structure Reports (e : ComponentError) (name : String) (value : Value) : Prop where
  kind : (∀ level, ¬ Counts value level) → e.message = name ++
    " component must be an integer, got " ++ String.ofList value.written
  size : ∀ level, Counts value level → e.message = name ++
    " component must be in [0; 255], got " ++ String.ofList (Numeral.decimal level)

end ComponentError

theorem badReported {component : Component} {value : Value} (bad : ¬ Fits value) :
    ∃ e, component.channelOf value = .error e ∧ e.Reports component.name value := by
  unfold Component.channelOf
  split
  · rename_i n
    have outside : ¬ (0 ≤ n ∧ n ≤ 255) := fun octet => bad ⟨n, .int n, octet⟩
    rw [if_neg outside]
    refine ⟨_, rfl, fun other => absurd (.int n) (other n), fun level counts => ?_⟩
    cases counts
    exact ComponentError.outOfRangeMessage component n
  · rename_i b
    exact absurd ⟨_, .flag b, Channel.flagStorable b⟩ bad
  · rename_i noInt noFlag
    refine ⟨_, rfl, fun _ => ComponentError.notIntegerMessage component value, fun level counts => ?_⟩
    cases counts with
    | int => exact absurd rfl (noInt _)
    | flag b => exact absurd rfl (noFlag b)

namespace Color

structure Part where
  component : Component
  name : String
  value : Value

def offered (red green blue alpha : Value) : List Part :=
  [⟨.red, "red", red⟩, ⟨.green, "green", green⟩, ⟨.blue, "blue", blue⟩, ⟨.alpha, "alpha", alpha⟩]

theorem offeredNamed {red green blue alpha : Value} :
    ∀ part ∈ offered red green blue alpha, part.component.name = part.name := by
  simp [offered, Component.name]

def checked : List Part → Except ComponentError (List Channel)
  | [] => .ok []
  | part :: rest => do
      let channel ← part.component.channelOf part.value
      let channels ← checked rest
      .ok (channel :: channels)

structure FirstBad (parts before : List Part) (part : Part) (after : List Part) : Prop where
  split : parts = before ++ part :: after
  fitting : ∀ part ∈ before, Fits part.value
  bad : ¬ Fits part.value

theorem checkedStep {part : Part} {channel : Channel}
    (read : part.component.channelOf part.value = .ok channel) (rest : List Part) :
    checked (part :: rest) = (checked rest).map (channel :: ·) := by
  simp only [checked, read, bind, Except.bind]
  cases checked rest <;> rfl

theorem checkedStop {part : Part} {e : ComponentError}
    (refused : part.component.channelOf part.value = .error e) (rest : List Part) :
    checked (part :: rest) = .error e := by
  simp only [checked, refused, bind, Except.bind]

theorem checkedFitting {parts : List Part} (fitting : ∀ part ∈ parts, Fits part.value) :
    ∃ channels, checked parts = .ok channels := by
  induction parts with
  | nil => exact ⟨[], rfl⟩
  | cons part rest ih =>
    obtain ⟨fits, later⟩ := List.forall_mem_cons.mp fitting
    obtain ⟨channel, read⟩ := fitsRead.mp fits
    obtain ⟨channels, all⟩ := ih later
    rw [checkedStep read, all]
    exact ⟨_, rfl⟩

theorem checkedBefore {before : List Part} (fitting : ∀ part ∈ before, Fits part.value)
    {part : Part} {e : ComponentError} (refused : part.component.channelOf part.value = .error e)
    (after : List Part) : checked (before ++ part :: after) = .error e := by
  induction before with
  | nil => exact checkedStop refused after
  | cons first rest ih =>
    obtain ⟨fits, later⟩ := List.forall_mem_cons.mp fitting
    obtain ⟨channel, read⟩ := fitsRead.mp fits
    rw [List.cons_append, checkedStep read, mapFailed]
    exact ih later

theorem fittingOrBad (parts : List Part) : (∀ part ∈ parts, Fits part.value) ∨
    ∃ before part after, FirstBad parts before part after := by
  induction parts with
  | nil => exact .inl (by simp)
  | cons part rest ih =>
    by_cases fits : Fits part.value
    · rcases ih with fitting | ⟨before, bad, after, first⟩
      · exact .inl (List.forall_mem_cons.mpr ⟨fits, fitting⟩)
      · exact .inr ⟨part :: before, bad, after, by rw [first.split, List.cons_append],
          List.forall_mem_cons.mpr ⟨fits, first.fitting⟩, first.bad⟩
    · exact .inr ⟨[], part, rest, rfl, by simp, fits⟩

theorem componentsChecked (red green blue alpha : Value) :
    (ofComponents red green blue alpha).map (fun c => c.exchanged.channels) =
      checked (offered red green blue alpha) := by
  simp only [ofComponents, offered, checked, bind, Except.bind]
  cases Component.red.channelOf red with
  | error e => rfl
  | ok red =>
    cases Component.green.channelOf green with
    | error e => rfl
    | ok green =>
      cases Component.blue.channelOf blue with
      | error e => rfl
      | ok blue => cases Component.alpha.channelOf alpha <;> rfl

theorem componentsFitting {red green blue alpha : Value}
    (fitting : ∀ part ∈ offered red green blue alpha, Fits part.value) :
    ∃ c, ofComponents red green blue alpha = .ok c := by
  obtain ⟨channels, all⟩ := checkedFitting fitting
  rw [← componentsChecked] at all
  obtain ⟨c, made, _⟩ := mapOk.mp all
  exact ⟨c, made⟩

theorem componentsBad {red green blue alpha : Value} {before after : List Part} {part : Part}
    {e : ComponentError} (first : FirstBad (offered red green blue alpha) before part after)
    (refused : part.component.channelOf part.value = .error e) :
    ofComponents red green blue alpha = .error e := by
  rw [← mapFailed, componentsChecked, first.split]
  exact checkedBefore first.fitting refused after

theorem partReported {red green blue alpha : Value} {before after : List Part} {part : Part}
    (first : FirstBad (offered red green blue alpha) before part after) :
    ∃ e, part.component.channelOf part.value = .error e ∧ e.Reports part.name part.value := by
  have listed : part ∈ offered red green blue alpha := by simp [first.split]
  rw [← offeredNamed part listed]
  exact badReported first.bad

/-- The constructor gives a color exactly where every component fits. Where one does not, the first
of those in the order red, green, blue, alpha is reported by its name, for its kind if it is no integer
and for its size otherwise, and nothing that is offered after it makes a difference to the error. -/
theorem firstBadReported (red green blue alpha : Value) :
    ((∃ c, ofComponents red green blue alpha = .ok c) ↔
      ∀ part ∈ offered red green blue alpha, Fits part.value) ∧
    ((∃ c, ofComponents red green blue alpha = .ok c) ∨ ∃ before part after,
      FirstBad (offered red green blue alpha) before part after) ∧
    ∀ before part after, FirstBad (offered red green blue alpha) before part after →
      ∃ e, ofComponents red green blue alpha = .error e ∧ e.Reports part.name part.value ∧
        ∀ red' green' blue' alpha' after',
          offered red' green' blue' alpha' = before ++ part :: after' →
          ofComponents red' green' blue' alpha' = .error e := by
  refine ⟨⟨?made, componentsFitting⟩, ?either, ?reported⟩
  case made =>
    intro ⟨c, made⟩
    rcases fittingOrBad (offered red green blue alpha) with fitting | ⟨_, _, _, first⟩
    · exact fitting
    · obtain ⟨e, refused, _⟩ := partReported first
      cases made.symm.trans (componentsBad first refused)
  case either =>
    rcases fittingOrBad (offered red green blue alpha) with fitting | first
    · exact .inl (componentsFitting fitting)
    · exact .inr first
  case reported =>
    intro before part after first
    obtain ⟨e, refused, reports⟩ := partReported first
    refine ⟨e, componentsBad first refused, reports, ?_⟩
    intro red' green' blue' alpha' after' split
    exact componentsBad ⟨split, first.fitting, first.bad⟩ refused

example : ofComponents (.int 0) (.int 300) .null (.int 0) = .error (.outOfRange .green 300) := rfl

end Color
end BufferColor
