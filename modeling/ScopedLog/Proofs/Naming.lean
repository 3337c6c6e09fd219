import ScopedLog.Level
import ScopedLog.Proofs.Text.Casing
import ScopedLog.Proofs.Text.Trimming
set_option autoImplicit false

namespace ScopedLog.Level

def GoesBy (l : Level) (name : String) : Prop :=
  name = l.name ∨ l = .warn ∧ name = "warning"

instance (l : Level) (name : String) : Decidable (l.GoesBy name) :=
  inferInstanceAs (Decidable (_ ∨ _))

/-- What is left of the text without the blanks around it is a name of the level, in any case of
    ASCII letters. -/
def NamedBy (l : Level) (s : String) : Prop :=
  ∃ t name, Text.TrimsTo s.toList t ∧ l.GoesBy name ∧ Text.SameButCase t name.toList

theorem lookup_spellings_eq_some_iff {name : String} {l : Level} :
    spellings.lookup name = some l ↔ l.GoesBy name := by
  constructor
  · intro found
    have all : ∀ e ∈ spellings, e.2.GoesBy e.1 := by decide +kernel
    obtain ⟨before, after, split, -⟩ := List.lookup_eq_some_iff.1 found
    exact all (name, l) (split ▸ by simp)
  · rintro (rfl | ⟨rfl, rfl⟩)
    · cases l <;> rfl
    · rfl

theorem GoesBy.plain {l : Level} {name : String} (goes : l.GoesBy name) :
    ∀ c ∈ name.toList, Text.Plain c := by
  have all : name.toList.all (fun c => decide (Text.Plain c)) = true := by
    rcases goes with rfl | ⟨rfl, rfl⟩
    · cases l <;> decide +kernel
    · decide +kernel
  exact fun c mem => of_decide_eq_true (List.all_eq_true.1 all c mem)

theorem GoesBy.lower {l : Level} {name : String} (goes : l.GoesBy name) :
    name.toList.map Char.toLower = name.toList := by
  rcases goes with rfl | ⟨rfl, rfl⟩
  · cases l <;> decide +kernel
  · decide +kernel

theorem goesBy_lowercase_iff {l : Level} {s : List Char} :
    l.GoesBy (String.ofList (Text.lowercase s)) ↔
      ∃ name, l.GoesBy name ∧ Text.SameButCase s name.toList := by
  constructor
  · intro goes
    refine ⟨_, goes, (Text.lowercase_eq_iff goes.plain goes.lower).1 ?_⟩
    rw [String.toList_ofList]
  · rintro ⟨name, goes, same⟩
    rw [(Text.lowercase_eq_iff goes.plain goes.lower).2 same, String.ofList_toList]
    exact goes

theorem parse_eq_ok_iff {s : String} {l : Level} : parse s = .ok l ↔ l.NamedBy s := by
  have found : parse s = .ok l ↔
      spellings.lookup (String.ofList (Text.lowercase (Text.trim s.toList))) = some l := by
    unfold parse
    split
    next m here => simp [here]
    next absent => simp [absent]
  rw [found, lookup_spellings_eq_some_iff, goesBy_lowercase_iff]
  constructor
  · rintro ⟨name, goes, same⟩
    exact ⟨_, name, Text.trimsTo_trim s.toList, goes, same⟩
  · rintro ⟨t, name, trims, goes, same⟩
    rw [Text.trim_of_trimsTo trims]
    exact ⟨name, goes, same⟩

theorem parse_eq_error_iff {s : String} {e : UnknownLevel} :
    parse s = .error e ↔ e.text = s ∧ ∀ l : Level, ¬ l.NamedBy s := by
  have unknown : ∀ d, parse s = .error d → d = ⟨s⟩ := by
    unfold parse
    split
    · exact fun _ other => by cases other
    · exact fun _ same => (Except.error.inj same).symm
  constructor
  · intro failed
    obtain rfl := unknown e failed
    refine ⟨rfl, fun l named => ?_⟩
    rw [parse_eq_ok_iff.2 named] at failed
    cases failed
  · rintro ⟨rfl, unnamed⟩
    cases parsed : parse e.text with
    | ok l => exact absurd (parse_eq_ok_iff.1 parsed) (unnamed l)
    | error d => rw [unknown d parsed]

theorem NamedBy.ascii {l : Level} {s : String} (named : l.NamedBy s) {t : List Char}
    (trims : Text.TrimsTo s.toList t) : ∀ c ∈ t, c.toNat < 0x80 := by
  obtain ⟨u, name, trims', goes, same⟩ := named
  obtain rfl : t = u := (Text.trim_of_trimsTo trims).symm.trans (Text.trim_of_trimsTo trims')
  exact same.ascii goes.plain goes.lower

/-- A text reads as a level just if it names it, blanks around it and the case of ASCII letters
    aside. Every other text comes back as it was given, and so does each that has a character beyond
    ASCII between its blanks, whatever lower-casing makes of it. -/
theorem parse_namedBy (s : String) :
    (∀ l, parse s = .ok l ↔ l.NamedBy s) ∧
    (∀ e, parse s = .error e ↔ e.text = s ∧ ∀ l : Level, ¬ l.NamedBy s) ∧
    ∀ t, Text.TrimsTo s.toList t → (∃ c ∈ t, 0x80 ≤ c.toNat) → parse s = .error ⟨s⟩ := by
  refine ⟨fun l => parse_eq_ok_iff, fun e => parse_eq_error_iff, ?_⟩
  rintro t trims ⟨c, mem, beyond⟩
  refine parse_eq_error_iff.2 ⟨rfl, fun l named => ?_⟩
  have ascii := named.ascii trims c mem
  omega

/-- A name in mixed case between wide blanks is known. A text with the dotted capital is not, though
    lower-casing makes an `i` of it, as it makes a `k` of another sign. -/
theorem wide_blanks_and_dotted_capital :
    parse "\u3000wArNiNg\t" = .ok .warn ∧
      Text.lowercase ['\u0130', '\u212a'] = ['i', '\u0307', 'k'] ∧
      parse " \u0130NFO" = .error ⟨" \u0130NFO"⟩ := by
  have mixed : Text.TrimsTo "\u3000wArNiNg\t".toList "wArNiNg".toList :=
    Text.trimsTo_iff.2 (by decide +kernel)
  have dotted : Text.TrimsTo " \u0130NFO".toList "\u0130NFO".toList :=
    Text.trimsTo_iff.2 (by decide +kernel)
  have same : Text.SameButCase "wArNiNg".toList "warning".toList := by
    unfold Text.SameButCase
    decide +kernel
  have known := ((parse_namedBy "\u3000wArNiNg\t").1 .warn).2
    ⟨_, "warning", mixed, .inr ⟨rfl, rfl⟩, same⟩
  have unknown := (parse_namedBy " \u0130NFO").2.2 _ dotted ⟨'\u0130', by decide, by decide⟩
  exact ⟨known, by decide +kernel, unknown⟩

end ScopedLog.Level
