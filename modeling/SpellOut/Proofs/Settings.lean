import SpellOut.Proofs.Toon
import SpellOut.Rule
import SpellOut.Toon.Codec

/-! Settings as documents.

Of the notation it is only assumed that settings are written as one line with the depth in base ten
(`Codec.WritesLine`), and that a depth is read from such a line if it has at most 63 binary digits
and from none with a greater number (`Codec.ReadsLine`). Settings that pass the check may reach
twice as far, so from there on they are written but not read back (`Settings.reread_iff`). -/
namespace SpellOut

/-! ### What is assumed of the notation -/

namespace Codec

/-- Settings whose depth fits a word of 64 bits are written as one line, in base ten. -/
def WritesLine (codec : Codec Settings) : Prop :=
  ∀ s : Settings, s.maxDepth < Nat.pow 2 64 →
    codec.write s = .ok ("max_depth: " ++ toString s.maxDepth)

/-- Of the lines with a decimal, those are read whose number is below the limit, and only those. -/
structure ReadsLine (codec : Codec Settings) : Prop where
  within : ∀ digits, Decimal digits → Nat.ofDigitChars 10 digits 0 < Nat.pow 2 63 →
    codec.read ("max_depth: " ++ String.ofList digits) = .ok ⟨Nat.ofDigitChars 10 digits 0⟩
  beyond : ∀ digits, Decimal digits → Nat.pow 2 63 ≤ Nat.ofDigitChars 10 digits 0 →
    ∃ why, codec.read ("max_depth: " ++ String.ofList digits) = .error why

variable {codec : Codec Settings} {s : Settings}

theorem ReadsLine.read_of_lt (h : codec.ReadsLine) (hdepth : s.maxDepth < Nat.pow 2 63) :
    codec.read ("max_depth: " ++ toString s.maxDepth) = .ok s := by
  obtain ⟨digits, hdecimal, htext, hvalue⟩ := exists_decimal s.maxDepth
  rw [htext, h.within digits hdecimal (by rwa [hvalue]), hvalue]

theorem ReadsLine.read_of_le (h : codec.ReadsLine) (hdepth : Nat.pow 2 63 ≤ s.maxDepth) :
    ∃ why, codec.read ("max_depth: " ++ toString s.maxDepth) = .error why := by
  obtain ⟨digits, hdecimal, htext, hvalue⟩ := exists_decimal s.maxDepth
  rw [htext]
  exact h.beyond digits hdecimal (by rwa [hvalue])

end Codec

/-! ### The TOON notation is one like that -/

namespace Toon

theorem isKey_maxDepth : IsKey "max_depth" where
  nonempty := by decide
  plain := List.all_eq_true.mp (by decide)
  noValue := by decide

theorem maxDepth_colon : "max_depth" ++ ": " = "max_depth: " := by decide

theorem find?_maxDepth (value : Value) :
    Document.find? [("max_depth", value)] "max_depth" = some value := by
  simp [Document.find?]

/-- What a line with the depth is read as. -/
theorem ofText?_maxDepth {digits : List Char} (h : Decimal digits) :
    Document.ofText? ("max_depth: " ++ String.ofList digits) =
      some [("max_depth", Value.ofWhole (Nat.ofDigitChars 10 digits 0))] := by
  rw [← maxDepth_colon]
  exact Document.ofText?_decimal isKey_maxDepth h

theorem settings_writesLine : settings.WritesLine := by
  intro s _
  simp only [settings, Document.ofSettings, Document.text_whole, maxDepth_colon]

theorem settings_readsLine : settings.ReadsLine where
  within := by
    intro digits hdecimal hvalue
    simp [settings, ofText?_maxDepth hdecimal, Value.ofWhole_of_lt hvalue, Document.settings?,
      find?_maxDepth]
  beyond := by
    intro digits hdecimal hvalue
    simp [settings, ofText?_maxDepth hdecimal, Value.ofWhole_of_le hvalue, Document.settings?,
      find?_maxDepth]

end Toon

/-! ### Reading back -/

namespace Settings

variable {codec : Codec Settings} {s : Settings} {text : String}

theorem ofToon_of_read_error {why : String} (h : codec.read text = .error why) :
    ofToon codec text = .error (.unreadable why) := by
  simp only [ofToon, h]

theorem ofToon_of_error {error : SettingsError} (hread : codec.read text = .ok s)
    (herror : s.error? = some error) : ofToon codec text = .error error := by
  simp only [ofToon, hread, herror]

theorem ofToon_of_valid (hread : codec.read text = .ok s) (herror : s.error? = none) :
    ofToon codec text = .ok s := by
  simp only [ofToon, hread, herror]

/-- Settings that are read are what the notation gives, and have passed the check. -/
theorem ofToon_eq_ok_iff :
    ofToon codec text = .ok s ↔ codec.read text = .ok s ∧ s.error? = none := by
  constructor
  · intro h
    cases hread : codec.read text with
    | error why =>
      rw [ofToon_of_read_error hread] at h
      cases h
    | ok read =>
      cases herror : read.error? with
      | some error =>
        rw [ofToon_of_error hread herror] at h
        cases h
      | none =>
        rw [ofToon_of_valid hread herror] at h
        cases h
        exact ⟨rfl, herror⟩
  · rintro ⟨hread, herror⟩
    exact ofToon_of_valid hread herror

/-- **Settings are read back below the limit of whole numbers, and only there.** Settings whose
depth fits a word of 64 bits are written. Those that pass the check are read from their text as they
were if and only if the depth has at most 63 binary digits. Otherwise reading them fails: with what
the check says against them, or since no depth can be read. It never succeeds with other settings,
so a rule that is made from what was read has the cap of one made from what was written, which is
the depth in the text. -/
theorem reread_iff (codec : Codec Settings) (hwrites : codec.WritesLine)
    (hreads : codec.ReadsLine) (s : Settings) (hword : s.maxDepth < Nat.pow 2 64) :
    ∃ text, s.toToon codec = .ok text ∧
      (ofToon codec text = .ok s ↔ s.error? = none ∧ s.maxDepth < Nat.pow 2 63) ∧
      (∀ error, s.error? = some error → ofToon codec text = .error error) ∧
      (Nat.pow 2 63 ≤ s.maxDepth → ∃ why, ofToon codec text = .error (.unreadable why)) ∧
      ∀ read, ofToon codec text = .ok read →
        read = s ∧ (Rule.ofSettings read).cap = (Rule.ofSettings s).cap ∧
          (Rule.ofSettings read).cap = s.maxDepth := by
  refine ⟨"max_depth: " ++ toString s.maxDepth, ?_, ?_⟩
  · simp only [toToon, hwrites s hword, Except.mapError]
  by_cases hdepth : s.maxDepth < Nat.pow 2 63
  · have hread := hreads.read_of_lt hdepth
    refine ⟨?_, ?_, ?_, ?_⟩
    · rw [ofToon_eq_ok_iff]
      exact ⟨fun ⟨_, herror⟩ => ⟨herror, hdepth⟩, fun ⟨herror, _⟩ => ⟨hread, herror⟩⟩
    · intro error herror
      exact ofToon_of_error hread herror
    · intro hle
      exact absurd hdepth (Nat.not_lt.mpr hle)
    · intro read hok
      obtain ⟨hsame, -⟩ := ofToon_eq_ok_iff.mp hok
      cases hread.symm.trans hsame
      exact ⟨rfl, rfl, rfl⟩
  · have hle : Nat.pow 2 63 ≤ s.maxDepth := Nat.le_of_not_lt hdepth
    obtain ⟨why, hread⟩ := hreads.read_of_le hle
    have hrefused := ofToon_of_read_error hread
    -- such a depth is not zero, so the check finds nothing wrong with it
    have herror : s.error? = none := by
      have hpos : 0 < Nat.pow 2 63 := by decide
      exact if_neg (by omega)
    simp only [hrefused]
    refine ⟨?_, ?_, ?_, ?_⟩
    · simp [hdepth]
    · simp [herror]
    · exact fun _ => ⟨why, rfl⟩
    · simp

/-- The greatest depth that is read back. -/
theorem reread_greatest :
    ∃ text, toToon Toon.settings ⟨Nat.pow 2 63 - 1⟩ = .ok text ∧
      ofToon Toon.settings text = .ok ⟨Nat.pow 2 63 - 1⟩ := by
  obtain ⟨text, hwritten, hread, -⟩ := reread_iff Toon.settings Toon.settings_writesLine
    Toon.settings_readsLine ⟨Nat.pow 2 63 - 1⟩ (by decide)
  exact ⟨text, hwritten, hread.mpr ⟨by decide, by decide⟩⟩

/-- The least depth that is not read back, which passes the check and fits a word of 64 bits. -/
theorem halfWord_unreadable :
    ¬∀ codec : Codec Settings, codec.WritesLine → codec.ReadsLine →
      ∀ s : Settings, s.error? = none → s.maxDepth < Nat.pow 2 64 →
        ∃ text, s.toToon codec = .ok text ∧ ofToon codec text = .ok s := by
  intro h
  obtain ⟨text, hwritten, hread⟩ := h Toon.settings Toon.settings_writesLine
    Toon.settings_readsLine ⟨Nat.pow 2 63⟩ rfl (by decide)
  have htext : toToon Toon.settings ⟨Nat.pow 2 63⟩ = .ok "max_depth: 9223372036854775808" := by
    decide +kernel
  cases htext.symm.trans hwritten
  have hrefused : (ofToon Toon.settings "max_depth: 9223372036854775808").isOk = false := by
    decide +kernel
  rw [hread] at hrefused
  cases hrefused

end Settings

end SpellOut
