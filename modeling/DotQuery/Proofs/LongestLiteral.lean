import DotQuery.Proofs.Numerals

/-!
# The longest literal

A decimal literal is a sign, digits with a point, and an exponent, each but the digits perhaps left
out. Reading scans for these parts one behind the other and never goes back, and yet of all literals
that a text starts with it takes the longest: whatever literal stands there, the scan gets at least
as far. So the number at the start of a text is that of its longest literal, read alone.
-/

namespace DotQuery

namespace Numeral

variable {n m : Numeral} {negative : Bool}
  {text tail rest literal sign digits whole fraction significand exponent : List Char}

/-! ### Literals -/

def IsDigits (text : List Char) : Prop :=
  ∀ c ∈ text, Text.isDecimalDigit c = true

/-- A sign, true for minus, as it is written. -/
inductive WritesSign : Bool → List Char → Prop where
  | none : WritesSign false []
  | plus : WritesSign false ['+']
  | minus : WritesSign true ['-']

/-- The digits before and after the point as they are written. -/
inductive WritesSignificand : List Char → List Char → List Char → Prop where
  | whole {digits : List Char} (hne : digits ≠ []) (hdigits : IsDigits digits) :
      WritesSignificand digits [] digits
  | point {whole fraction : List Char} (hne : whole ≠ []) (hwhole : IsDigits whole)
      (hfraction : IsDigits fraction) :
      WritesSignificand whole fraction (whole ++ '.' :: fraction)
  | fraction {fraction : List Char} (hne : fraction ≠ []) (hfraction : IsDigits fraction) :
      WritesSignificand [] fraction ('.' :: fraction)

/-- The sign and digits of an exponent as they are written. -/
inductive WritesExponent : Bool → List Char → List Char → Prop where
  | none : WritesExponent false [] []
  | some {negative : Bool} {mark : Char} {sign digits : List Char} (hmark : mark = 'e' ∨ mark = 'E')
      (hsign : WritesSign negative sign) (hne : digits ≠ []) (hdigits : IsDigits digits) :
      WritesExponent negative digits (mark :: (sign ++ digits))

/-- The text is a literal, and these are its parts. -/
inductive IsLiteral : Numeral → List Char → Prop where
  | parts {negative exponentNegative : Bool}
      {whole fraction exponent sign significand tail : List Char} (hsign : WritesSign negative sign)
      (hsignificand : WritesSignificand whole fraction significand)
      (hexponent : WritesExponent exponentNegative exponent tail) :
      IsLiteral ⟨negative, whole, fraction, exponentNegative, exponent⟩
        (sign ++ (significand ++ tail))

/-- Of the literals that `text` starts with this is the longest. -/
structure IsLongest (n : Numeral) (literal text : List Char) : Prop where
  isLiteral : n.IsLiteral literal
  leads : literal <+: text
  longest : ∀ m front, IsLiteral m front → front <+: text → front.length ≤ literal.length

/-! ### Digits -/

/-- The text does not go on with a digit. -/
def EndsDigits (tail : List Char) : Prop :=
  ∀ c ∈ tail.head?, Text.isDecimalDigit c = false

theorem takeDigits_append_of_isDigits (hdigits : IsDigits digits) (tail : List Char) :
    takeDigits (digits ++ tail) = (digits ++ (takeDigits tail).1, (takeDigits tail).2) := by
  rw [takeDigits, List.takeWhile_append_of_pos hdigits, List.dropWhile_append_of_pos hdigits]
  rfl

theorem takeDigits_of_endsDigits (htail : EndsDigits tail) : takeDigits tail = ([], tail) := by
  cases tail with
  | nil => rfl
  | cons c rest => simp [takeDigits, htail c rfl]

theorem takeDigits_exact (hdigits : IsDigits digits) (htail : EndsDigits tail) :
    takeDigits (digits ++ tail) = (digits, tail) := by
  rw [takeDigits_append_of_isDigits hdigits, takeDigits_of_endsDigits htail, List.append_nil]

theorem isDigits_takeDigits (text : List Char) : IsDigits (takeDigits text).1 := fun _ hc =>
  List.mem_takeWhile_imp hc

theorem takeDigits_append_eq (text : List Char) :
    (takeDigits text).1 ++ (takeDigits text).2 = text :=
  List.takeWhile_append_dropWhile

theorem takeDigits_suffix (text : List Char) : (takeDigits text).2 <:+ text :=
  List.dropWhile_suffix _

theorem isDigits_of_takeDigits_eq (htake : takeDigits text = (digits, rest)) :
    IsDigits digits ∧ text = digits ++ rest := by
  have hdigits := isDigits_takeDigits text
  have htext := takeDigits_append_eq text
  rw [htake] at hdigits htext
  exact ⟨hdigits, htext.symm⟩

theorem IsDigits.not_sign (hdigits : IsDigits digits) (tail : List Char) (hne : digits ≠ []) :
    ∀ c ∈ (digits ++ tail).head?, c ≠ '+' ∧ c ≠ '-' := by
  cases digits with
  | nil => exact absurd rfl hne
  | cons first others =>
      rintro _ ⟨⟩
      have hfirst := hdigits first List.mem_cons_self
      constructor <;> rintro rfl <;> revert hfirst <;> decide

/-! ### Signs -/

theorem takeSign_writesSign (hsign : WritesSign negative sign)
    (htail : ∀ c ∈ tail.head?, c ≠ '+' ∧ c ≠ '-') : takeSign (sign ++ tail) = (negative, tail) := by
  cases hsign with
  | none =>
      rw [List.nil_append, takeSign.eq_3]
      · rintro rest rfl
        exact (htail '-' rfl).2 rfl
      · rintro rest rfl
        exact (htail '+' rfl).1 rfl
  | plus => rfl
  | minus => rfl

theorem writesSign_takeSign (text : List Char) :
    ∃ sign, WritesSign (takeSign text).1 sign ∧ text = sign ++ (takeSign text).2 := by
  unfold takeSign
  split
  · exact ⟨['-'], .minus, rfl⟩
  · exact ⟨['+'], .plus, rfl⟩
  · exact ⟨[], .none, rfl⟩

/-! ### Significands -/

theorem WritesSignificand.not_sign (hsignificand : WritesSignificand whole fraction significand)
    (tail : List Char) : ∀ c ∈ (significand ++ tail).head?, c ≠ '+' ∧ c ≠ '-' := by
  cases hsignificand with
  | whole hne hdigits => exact hdigits.not_sign tail hne
  | point hne hwhole hfraction =>
      rw [List.append_assoc]
      exact hwhole.not_sign _ hne
  | fraction hne hfraction =>
      rintro _ ⟨⟩
      decide

section Scan

variable (htake : takeDigits text = (whole, rest))
include htake

theorem takeSignificand?_whole (hne : whole ≠ []) (hpoint : ∀ c ∈ rest.head?, c ≠ '.') :
    takeSignificand? text = some ((whole, []), rest) := by
  rw [takeSignificand?, htake]
  cases whole with
  | nil => exact absurd rfl hne
  | cons c others =>
      cases rest with
      | nil => rfl
      | cons d behind =>
          have hd : d ≠ '.' := hpoint d rfl
          simp [hd]

theorem takeSignificand?_point (hne : whole ≠ []) (hpoint : rest = '.' :: tail) :
    takeSignificand? text = some ((whole, (takeDigits tail).1), (takeDigits tail).2) := by
  rw [takeSignificand?, htake, hpoint]
  cases whole with
  | nil => exact absurd rfl hne
  | cons c others => rfl

end Scan

theorem takeSignificand?_fraction (hne : (takeDigits tail).1 ≠ []) :
    takeSignificand? ('.' :: tail) = some (([], (takeDigits tail).1), (takeDigits tail).2) := by
  have htake : takeDigits ('.' :: tail) = ([], '.' :: tail) :=
    takeDigits_of_endsDigits (by rintro _ ⟨⟩; decide)
  rw [takeSignificand?, htake]
  rcases hfraction : takeDigits tail with ⟨fraction, rest⟩
  rw [hfraction] at hne
  cases fraction with
  | nil => exact absurd rfl hne
  | cons c others => simp [hfraction]

theorem endsDigits_point (tail : List Char) : EndsDigits ('.' :: tail) := by
  rintro _ ⟨⟩
  decide

/-- The text goes on with neither a digit nor a point. -/
def EndsSignificand (tail : List Char) : Prop :=
  ∀ c ∈ tail.head?, Text.isDecimalDigit c = false ∧ c ≠ '.'

theorem takeSignificand?_exact (hsignificand : WritesSignificand whole fraction significand)
    (htail : EndsSignificand tail) :
    takeSignificand? (significand ++ tail) = some ((whole, fraction), tail) := by
  have hdigits : EndsDigits tail := fun c hc => (htail c hc).1
  cases hsignificand with
  | whole hne hwhole =>
      exact takeSignificand?_whole (takeDigits_exact hwhole hdigits) hne fun c hc => (htail c hc).2
  | point hne hwhole hfraction =>
      rw [List.append_assoc, List.cons_append, takeSignificand?_point
        (takeDigits_exact hwhole (endsDigits_point _)) hne rfl, takeDigits_exact hfraction hdigits]
  | fraction hne hfraction =>
      have htake := takeDigits_exact hfraction hdigits
      rw [List.cons_append, takeSignificand?_fraction (by rwa [htake]), htake]

/-- Whatever follows a significand, the scan does not stop within it. -/
theorem exists_takeSignificand?_eq (hsignificand : WritesSignificand whole fraction significand)
    (tail : List Char) :
    ∃ part rest, takeSignificand? (significand ++ tail) = some (part, rest) ∧ rest <:+ tail := by
  cases hsignificand with
  | whole hne hwhole =>
      have htake := takeDigits_append_of_isDigits hwhole tail
      have hmore := List.append_ne_nil_of_left_ne_nil hne (takeDigits tail).1
      have hsuffix := takeDigits_suffix tail
      generalize (takeDigits tail).2 = rest at htake hsuffix
      by_cases hpoint : rest.head? = some '.'
      · obtain ⟨behind, rfl⟩ := List.head?_eq_some_iff.mp hpoint
        refine ⟨_, _, takeSignificand?_point htake hmore rfl, ?_⟩
        exact (takeDigits_suffix behind).trans ((List.suffix_cons '.' behind).trans hsuffix)
      · refine ⟨_, _, takeSignificand?_whole htake hmore ?_, hsuffix⟩
        rintro c hc rfl
        exact hpoint hc
  | @point whole fraction hne hwhole hfraction =>
      have htake := takeDigits_exact hwhole (endsDigits_point (fraction ++ tail))
      refine ⟨(whole, fraction ++ (takeDigits tail).1), _, ?_, takeDigits_suffix tail⟩
      rw [List.append_assoc, List.cons_append, takeSignificand?_point htake hne rfl,
        takeDigits_append_of_isDigits hfraction]
  | @fraction fraction hne hfraction =>
      have htake := takeDigits_append_of_isDigits hfraction tail
      refine ⟨([], fraction ++ (takeDigits tail).1), _, ?_, takeDigits_suffix tail⟩
      rw [List.cons_append, takeSignificand?_fraction (by simp [htake, hne]), htake]

theorem exists_of_takeSignificand?_eq_some
    (htake : takeSignificand? text = some ((whole, fraction), rest)) :
    ∃ significand, WritesSignificand whole fraction significand ∧ text = significand ++ rest := by
  unfold takeSignificand? at htake
  split at htake
  · next behind hpoint =>
      obtain ⟨-, rfl⟩ := isDigits_of_takeDigits_eq hpoint
      split at htake
      · cases htake
      · next hne hdigits =>
          cases htake
          obtain ⟨hfraction, rfl⟩ := isDigits_of_takeDigits_eq hdigits
          exact ⟨_, .fraction hne hfraction, rfl⟩
  · cases htake
  · next behind hne hdigits =>
      obtain ⟨hwhole, rfl⟩ := isDigits_of_takeDigits_eq hdigits
      cases htake
      refine ⟨_, .point hne hwhole (isDigits_takeDigits behind), ?_⟩
      rw [List.append_assoc, List.cons_append]
      exact congrArg (fun more => whole ++ '.' :: more) (takeDigits_append_eq behind).symm
  · next _ hne _ hdigits =>
      obtain ⟨hwhole, rfl⟩ := isDigits_of_takeDigits_eq hdigits
      cases htake
      exact ⟨_, .whole hne hwhole, rfl⟩

/-! ### Exponents -/

/-- The text goes on with neither a digit nor the mark of an exponent. -/
def EndsExponent (tail : List Char) : Prop :=
  ∀ c ∈ tail.head?, Text.isDecimalDigit c = false ∧ c ≠ 'e' ∧ c ≠ 'E'

theorem takeExponent_unmarked (hmark : ∀ c ∈ tail.head?, c ≠ 'e' ∧ c ≠ 'E') :
    takeExponent tail = ((false, []), tail) := by
  cases tail with
  | nil => rfl
  | cons c rest =>
      have hc := hmark c rfl
      rw [takeExponent, if_neg (not_or.mpr hc)]

theorem takeExponent_marked {mark : Char} (hmark : mark = 'e' ∨ mark = 'E')
    (hsign : WritesSign negative sign) (hne : digits ≠ []) (hdigits : IsDigits digits)
    (tail : List Char) :
    takeExponent (mark :: (sign ++ digits) ++ tail) =
      ((negative, digits ++ (takeDigits tail).1), (takeDigits tail).2) := by
  have htake := takeDigits_append_of_isDigits hdigits tail
  rw [List.cons_append, List.append_assoc, takeExponent, if_pos hmark,
    takeSign_writesSign hsign (hdigits.not_sign tail hne)]
  dsimp only
  rw [htake]
  cases digits with
  | nil => exact absurd rfl hne
  | cons c others => rfl

theorem takeExponent_exact (hexponent : WritesExponent negative digits exponent)
    (htail : EndsExponent tail) : takeExponent (exponent ++ tail) = ((negative, digits), tail) := by
  cases hexponent with
  | none => exact takeExponent_unmarked fun c hc => (htail c hc).2
  | some hmark hsign hne hdigits =>
      have hends : EndsDigits tail := fun c hc => (htail c hc).1
      rw [takeExponent_marked hmark hsign hne hdigits, takeDigits_of_endsDigits hends,
        List.append_nil]

theorem writesExponent_takeExponent (text : List Char) :
    ∃ exponent, WritesExponent (takeExponent text).1.1 (takeExponent text).1.2 exponent ∧
      text = exponent ++ (takeExponent text).2 := by
  cases text with
  | nil => exact ⟨[], .none, rfl⟩
  | cons mark rest =>
      by_cases hmark : mark = 'e' ∨ mark = 'E'
      · obtain ⟨sign, hsign, hrest⟩ := writesSign_takeSign rest
        rw [takeExponent, if_pos hmark]
        dsimp only
        split
        · exact ⟨[], .none, rfl⟩
        · next hne hdigits =>
            obtain ⟨hdigits, hbehind⟩ := isDigits_of_takeDigits_eq hdigits
            refine ⟨_, .some hmark hsign hne hdigits, ?_⟩
            rw [List.cons_append, List.append_assoc, ← hbehind, ← hrest]
      · rw [takeExponent, if_neg hmark]
        exact ⟨[], .none, rfl⟩

theorem takeExponent_suffix (text : List Char) : (takeExponent text).2 <:+ text := by
  obtain ⟨exponent, -, htext⟩ := writesExponent_takeExponent text
  exact ⟨exponent, htext.symm⟩

/-! ### Literals at the start of a text -/

/-- No literal goes on with this text, which may be that of a sign. -/
def EndsNumeral (tail : List Char) : Prop :=
  ∀ c ∈ tail.head?, Text.isDecimalDigit c = false ∧ c ∉ ['.', 'e', 'E']

theorem endsNumeral_nil : EndsNumeral [] := by
  intro c hc
  cases hc

theorem EndsNumeral.endsExponent (htail : EndsNumeral tail) : EndsExponent tail := by
  intro c hc
  obtain ⟨hdigit, hmark⟩ := htail c hc
  simp only [List.mem_cons, List.not_mem_nil, or_false, not_or] at hmark
  exact ⟨hdigit, hmark.2⟩

theorem endsSignificand_mark {mark : Char} (hmark : mark = 'e' ∨ mark = 'E') (tail : List Char) :
    EndsSignificand (mark :: tail) := by
  rcases hmark with rfl | rfl <;> rintro _ ⟨⟩ <;> decide

theorem WritesExponent.endsSignificand (hexponent : WritesExponent negative digits exponent)
    (htail : EndsNumeral tail) : EndsSignificand (exponent ++ tail) := by
  cases hexponent with
  | none =>
      intro c hc
      obtain ⟨hdigit, hmark⟩ := htail c hc
      exact ⟨hdigit, fun hpoint => hmark (by simp [hpoint])⟩
  | some hmark hsign hne hdigits => exact endsSignificand_mark hmark _

theorem take?_of_sign (hsign : WritesSign negative sign)
    (hsignificand : WritesSignificand whole fraction significand) (tail : List Char) :
    take? (sign ++ (significand ++ tail)) =
      (takeSignificand? (significand ++ tail)).map fun part =>
        let exponent := takeExponent part.2
        (⟨negative, part.1.1, part.1.2, exponent.1.1, exponent.1.2⟩, exponent.2) := by
  rw [take?, takeSign_writesSign hsign (hsignificand.not_sign _)]
  dsimp only
  cases takeSignificand? (significand ++ tail) <;> rfl

theorem take?_exact (hliteral : n.IsLiteral literal) (htail : EndsNumeral tail) :
    take? (literal ++ tail) = some (n, tail) := by
  cases hliteral with
  | parts hsign hsignificand hexponent =>
      rw [List.append_assoc, List.append_assoc, take?_of_sign hsign hsignificand,
        takeSignificand?_exact hsignificand (hexponent.endsSignificand htail), Option.map_some]
      dsimp only
      rw [takeExponent_exact hexponent htail.endsExponent]

theorem take?_of_isLiteral (hliteral : n.IsLiteral literal) : take? literal = some (n, []) := by
  simpa using take?_exact hliteral endsNumeral_nil

/-- Whatever follows a literal, the scan does not stop within it. -/
theorem exists_take?_eq (hliteral : n.IsLiteral literal) (tail : List Char) :
    ∃ m rest, take? (literal ++ tail) = some (m, rest) ∧ rest <:+ tail := by
  cases hliteral with
  | parts hsign hsignificand hexponent =>
      rw [List.append_assoc, List.append_assoc, take?_of_sign hsign hsignificand]
      cases hexponent with
      | none =>
          obtain ⟨part, rest, htake, hsuffix⟩ := exists_takeSignificand?_eq hsignificand tail
          rw [List.nil_append, htake]
          exact ⟨_, _, rfl, (takeExponent_suffix rest).trans hsuffix⟩
      | some hmark hexponentSign hne hdigits =>
          -- the mark of the exponent stops the digits before it, so they are taken exactly
          have hexponent := takeExponent_marked hmark hexponentSign hne hdigits tail
          rw [List.cons_append] at hexponent ⊢
          rw [takeSignificand?_exact hsignificand (endsSignificand_mark hmark _), Option.map_some]
          dsimp only
          rw [hexponent]
          exact ⟨_, _, rfl, takeDigits_suffix tail⟩

theorem exists_of_take?_eq_some (htake : take? text = some (n, rest)) :
    ∃ literal, n.IsLiteral literal ∧ text = literal ++ rest := by
  obtain ⟨sign, hsign, htext⟩ := writesSign_takeSign text
  unfold take? at htake
  dsimp only at htake
  obtain ⟨⟨⟨whole, fraction⟩, behind⟩, hsignificand, htake⟩ := Option.bind_eq_some_iff.mp htake
  obtain ⟨significand, hwrites, hbehind⟩ := exists_of_takeSignificand?_eq_some hsignificand
  obtain ⟨exponent, hexponent, hrest⟩ := writesExponent_takeExponent behind
  cases htake
  refine ⟨_, .parts hsign hwrites hexponent, ?_⟩
  rw [List.append_assoc, List.append_assoc, ← hrest, ← hbehind, ← htext]

/-- Reading takes the longest of the literals that a text starts with. -/
theorem take?_eq_some_iff :
    take? text = some (n, rest) ↔ ∃ literal, n.IsLongest literal text ∧ text = literal ++ rest := by
  constructor
  · intro htake
    obtain ⟨literal, hliteral, rfl⟩ := exists_of_take?_eq_some htake
    refine ⟨literal, ⟨hliteral, List.prefix_append _ _, ?_⟩, rfl⟩
    rintro m front hfront ⟨behind, hbehind⟩
    obtain ⟨m', rest', htake', hsuffix⟩ := exists_take?_eq hfront behind
    rw [hbehind, htake] at htake'
    cases htake'
    have hlength := congrArg List.length hbehind
    have hrest := hsuffix.length_le
    rw [List.length_append, List.length_append] at hlength
    omega
  · rintro ⟨literal, hlongest, rfl⟩
    obtain ⟨m, behind, htake, hsuffix⟩ := exists_take?_eq hlongest.isLiteral rest
    obtain ⟨front, hfront, htext⟩ := exists_of_take?_eq_some htake
    have hshorter := hlongest.longest m front hfront (htext ▸ List.prefix_append _ _)
    have hlength := congrArg List.length htext
    have hrest := hsuffix.length_le
    rw [List.length_append, List.length_append] at hlength
    obtain ⟨rfl, rfl⟩ := List.append_inj htext (by omega)
    -- the two are read off the same text
    cases (take?_of_isLiteral hlongest.isLiteral).symm.trans (take?_of_isLiteral hfront)
    exact htake

theorem take?_eq_none_iff :
    take? text = none ↔ ∀ n literal, IsLiteral n literal → ¬ literal <+: text := by
  constructor
  · rintro htake n literal hliteral ⟨tail, rfl⟩
    obtain ⟨m, rest, htake', -⟩ := exists_take?_eq hliteral tail
    cases htake.symm.trans htake'
  · intro hnone
    rw [Option.eq_none_iff_forall_ne_some]
    rintro ⟨n, rest⟩ htake
    obtain ⟨literal, hliteral, rfl⟩ := exists_of_take?_eq_some htake
    exact hnone n literal hliteral (List.prefix_append _ _)

/-! ### What a literal is made of -/

/-- What stands in a literal beside its digits. -/
def marks : List Char :=
  ['+', '-', '.', 'e', 'E']

theorem WritesSign.mem (hsign : WritesSign negative sign) : ∀ c ∈ sign, c ∈ marks := by
  cases hsign <;> simp [marks]

theorem WritesSignificand.mem (hsignificand : WritesSignificand whole fraction significand) :
    ∀ c ∈ significand, c ∈ whole ++ fraction ∨ c ∈ marks := by
  intro c hc
  cases hsignificand with
  | whole hne hdigits => exact .inl (List.mem_append_left _ hc)
  | point hne hwhole hfraction =>
      rw [List.mem_append, List.mem_cons] at hc
      rcases hc with hc | rfl | hc
      · exact .inl (List.mem_append_left _ hc)
      · exact .inr (by decide)
      · exact .inl (List.mem_append_right _ hc)
  | fraction hne hfraction =>
      rcases List.mem_cons.mp hc with rfl | hc
      · exact .inr (by decide)
      · exact .inl hc

theorem WritesExponent.mem (hexponent : WritesExponent negative digits exponent) :
    ∀ c ∈ exponent, c ∈ digits ∨ c ∈ marks := by
  intro c hc
  cases hexponent with
  | none => cases hc
  | some hmark hsign hne hdigits =>
      rw [List.mem_cons, List.mem_append] at hc
      rcases hc with rfl | hc | hc
      · exact .inr (by rcases hmark with rfl | rfl <;> decide)
      · exact .inr (hsign.mem c hc)
      · exact .inl hc

theorem WritesSignificand.ne_nil (hsignificand : WritesSignificand whole fraction significand) :
    significand ≠ [] := by
  cases hsignificand with
  | whole hne hdigits => exact hne
  | point hne hwhole hfraction => exact List.append_ne_nil_of_left_ne_nil hne _
  | fraction hne hfraction => exact List.cons_ne_nil _ _

theorem IsLiteral.ne_nil (hliteral : n.IsLiteral literal) : literal ≠ [] := by
  cases hliteral with
  | parts hsign hsignificand hexponent =>
      exact List.append_ne_nil_of_right_ne_nil _
        (List.append_ne_nil_of_left_ne_nil hsignificand.ne_nil _)

theorem WritesSignificand.isDigits (hsignificand : WritesSignificand whole fraction significand) :
    ∀ c ∈ whole ++ fraction, c ∈ significand ∧ Text.isDecimalDigit c = true := by
  cases hsignificand with
  | whole hne hdigits =>
      rw [List.append_nil]
      exact fun c hc => ⟨hc, hdigits c hc⟩
  | point hne hwhole hfraction =>
      rw [List.forall_mem_append]
      exact ⟨fun c hc => ⟨by simp [hc], hwhole c hc⟩, fun c hc => ⟨by simp [hc], hfraction c hc⟩⟩
  | fraction hne hfraction => exact fun c hc => ⟨List.mem_cons_of_mem _ hc, hfraction c hc⟩

theorem WritesExponent.isDigits (hexponent : WritesExponent negative digits exponent) :
    ∀ c ∈ digits, c ∈ exponent ∧ Text.isDecimalDigit c = true := by
  cases hexponent with
  | none => exact nofun
  | some hmark hsign hne hdigits => exact fun c hc => ⟨by simp [hc], hdigits c hc⟩

/-- All digits of a literal, before and behind the point and in the exponent. -/
def allDigits (n : Numeral) : List Char :=
  n.whole ++ n.fraction ++ n.exponent

theorem isAscii_iff : n.isAscii = true ↔ ∀ c ∈ n.allDigits, c.isDigit = true := by
  rw [allDigits, List.forall_mem_append, List.forall_mem_append]
  simp only [isAscii, Bool.and_eq_true, List.all_eq_true]

theorem IsLiteral.mem (hliteral : n.IsLiteral literal) :
    ∀ c ∈ literal, c ∈ n.allDigits ∨ c ∈ marks := by
  cases hliteral with
  | parts hsign hsignificand hexponent =>
      rw [List.forall_mem_append, List.forall_mem_append]
      refine ⟨fun c hc => .inr (hsign.mem c hc), fun c hc => ?_, fun c hc => ?_⟩
      · exact (hsignificand.mem c hc).imp_left (List.mem_append_left _)
      · exact (hexponent.mem c hc).imp_left (List.mem_append_right _)

theorem IsLiteral.isDigits (hliteral : n.IsLiteral literal) :
    ∀ c ∈ n.allDigits, c ∈ literal ∧ Text.isDecimalDigit c = true := by
  cases hliteral with
  | parts hsign hsignificand hexponent =>
      rw [allDigits, List.forall_mem_append]
      refine ⟨fun c hc => ?_, fun c hc => ?_⟩
      · obtain ⟨hmem, hdigit⟩ := hsignificand.isDigits c hc
        exact ⟨List.mem_append_right _ (List.mem_append_left _ hmem), hdigit⟩
      · obtain ⟨hmem, hdigit⟩ := hexponent.isDigits c hc
        exact ⟨List.mem_append_right _ (List.mem_append_right _ hmem), hdigit⟩

theorem IsLiteral.isAscii_iff (hliteral : n.IsLiteral literal) :
    n.isAscii = true ↔ ∀ c ∈ literal, Text.isDecimalDigit c = true → c.isDigit = true := by
  have hmarks : ∀ c ∈ marks, Text.isDecimalDigit c = false := by
    simp only [marks, List.forall_mem_cons, List.not_mem_nil, false_implies, implies_true]
    decide
  rw [Numeral.isAscii_iff]
  constructor
  · intro hascii c hc hdigit
    rcases hliteral.mem c hc with hmem | hmark
    · exact hascii c hmem
    · rw [hmarks c hmark] at hdigit
      cases hdigit
  · intro hascii c hc
    obtain ⟨hmem, hdigit⟩ := hliteral.isDigits c hc
    exact hascii c hmem hdigit

theorem IsLiteral.not_blank (hliteral : n.IsLiteral literal) :
    ∀ c ∈ literal, Text.isBlank c = false := by
  have hmarks : ∀ c ∈ marks, Text.isBlank c = false := by
    simp only [marks, List.forall_mem_cons, List.not_mem_nil, false_implies, implies_true]
    decide
  intro c hc
  rcases hliteral.mem c hc with hmem | hmark
  · by_contra hblank
    have hdigit := (hliteral.isDigits c hmem).2
    rw [Text.not_isDecimalDigit_of_isBlank (Bool.not_eq_false _ ▸ hblank)] at hdigit
    cases hdigit
  · exact hmarks c hmark

theorem IsLiteral.trim_eq (hliteral : n.IsLiteral literal) : Text.trim literal = literal :=
  Text.trim_eq_self (fun c hc => hliteral.not_blank c (List.mem_of_mem_head? hc))
    fun c hc => hliteral.not_blank c (List.mem_of_getLast? hc)

theorem finite?_eq_some_iff {x : Finite64} :
    n.finite? = some x ↔ n.isAscii = true ∧ n.toDecimal.toBinary64 = .finite x := by
  rw [finite?, toBinary64?]
  cases n.isAscii with
  | false => simp
  | true =>
      rw [if_pos rfl, Option.bind_some]
      cases n.toDecimal.toBinary64 <;> simp [Binary64.finite?]

/-- A literal in ASCII digits denotes the decimal that it is written for, if that is finite. -/
theorem IsLiteral.finite?_eq (hliteral : n.IsLiteral literal)
    (hascii : ∀ c ∈ literal, Text.isDecimalDigit c = true → c.isDigit = true) :
    n.finite? = n.toDecimal.toBinary64.finite? := by
  rw [finite?, toBinary64?, if_pos (hliteral.isAscii_iff.mpr hascii), Option.bind_some]

end Numeral

/-! ### Numbers -/

section Numbers

variable {n : Numeral} {literal text tail : List Char} {x : Finite64}

open Numeral

theorem parseNumber?_of_isLiteral (hliteral : n.IsLiteral literal) :
    parseNumber? literal = n.finite? := by
  rw [parseNumber?, hliteral.trim_eq, take?_of_isLiteral hliteral]

theorem exists_isLiteral_of_parseNumber? (hnumber : parseNumber? text = some x) :
    ∃ n, IsLiteral n (Text.trim text) ∧ n.finite? = some x := by
  unfold parseNumber? at hnumber
  split at hnumber
  · next n htake =>
      obtain ⟨literal, hliteral, htext⟩ := exists_of_take?_eq_some htake
      rw [List.append_nil] at htext
      exact ⟨n, htext ▸ hliteral, hnumber⟩
  · cases hnumber

theorem endsNumeral_append {blanks : List Char} (hblanks : ∀ c ∈ blanks, Text.isBlank c = true)
    (htail : EndsNumeral tail) : EndsNumeral (blanks ++ tail) := by
  cases blanks with
  | nil => exact htail
  | cons c rest =>
      rintro _ ⟨⟩
      have hends := endsLiteral_of_isBlank hblanks c rfl
      exact ⟨hends.1, fun hmark => hends.2 (List.mem_append_left ['+', '-'] hmark)⟩

/-- A number that is written alone is read also in front of a text that no literal goes on with. -/
theorem parseLeadingNumber?_append (hnumber : parseNumber? text = some x)
    (htail : EndsNumeral tail) : parseLeadingNumber? (text ++ tail) = some x := by
  obtain ⟨n, hliteral, hfinite⟩ := exists_isLiteral_of_parseNumber? hnumber
  obtain ⟨blanks, hstart, hblanks⟩ := Text.exists_trimStart_eq text
  have hne : Text.trimStart text ≠ [] := by
    rw [hstart]
    exact List.append_ne_nil_of_left_ne_nil hliteral.ne_nil _
  have hstartAppend : Text.trimStart (text ++ tail) = Text.trim text ++ (blanks ++ tail) := by
    rw [← List.append_assoc, ← hstart, Text.trimStart, List.dropWhile_append]
    exact if_neg (mt List.isEmpty_iff.mp hne)
  have htake := take?_exact hliteral (endsNumeral_append hblanks htail)
  rw [parseLeadingNumber?, hstartAppend, htake]
  exact hfinite

/-- Behind white space the text starts with a literal, of which the longest is written in ASCII
digits and denotes the number. -/
inductive StartsWithNumber (text : List Char) (x : Finite64) : Prop where
  | longest {n : Numeral} {literal : List Char}
      (hlongest : IsLongest n literal (Text.trimStart text))
      (hascii : ∀ c ∈ literal, Text.isDecimalDigit c = true → c.isDigit = true)
      (hnumber : n.toDecimal.toBinary64 = .finite x) : StartsWithNumber text x

theorem parseLeadingNumber?_eq_some_iff :
    parseLeadingNumber? text = some x ↔ StartsWithNumber text x := by
  rw [parseLeadingNumber?, Option.bind_eq_bind, Option.bind_eq_some_iff]
  constructor
  · rintro ⟨⟨n, rest⟩, htake, hfinite⟩
    obtain ⟨literal, hlongest, -⟩ := take?_eq_some_iff.mp htake
    obtain ⟨hall, hnumber⟩ := finite?_eq_some_iff.mp hfinite
    exact .longest hlongest (hlongest.isLiteral.isAscii_iff.mp hall) hnumber
  · rintro ⟨hlongest, hascii, hnumber⟩
    obtain ⟨rest, hrest⟩ := hlongest.leads
    have hall := hlongest.isLiteral.isAscii_iff.mpr hascii
    exact ⟨_, take?_eq_some_iff.mpr ⟨_, hlongest, hrest.symm⟩,
      finite?_eq_some_iff.mpr ⟨hall, hnumber⟩⟩

theorem parseLeadingNumber?_eq_none_iff :
    parseLeadingNumber? text = none ↔ ∀ x, ¬ StartsWithNumber text x := by
  simp only [Option.eq_none_iff_forall_ne_some, ne_eq, parseLeadingNumber?_eq_some_iff]

theorem exists_startsWithNumber {value : Binary64}
    (hread : (parseLeadingNumber? text).map .finite = some value) :
    ∃ x, StartsWithNumber text x ∧ .finite x = value := by
  obtain ⟨x, hx, hvalue⟩ := Option.map_eq_some_iff.mp hread
  exact ⟨x, parseLeadingNumber?_eq_some_iff.mp hx, hvalue⟩

theorem StartsWithNumber.unique {y : Finite64} (hx : StartsWithNumber text x)
    (hy : StartsWithNumber text y) : x = y := by
  rw [← parseLeadingNumber?_eq_some_iff] at hx hy
  exact Option.some.inj (hx.symm.trans hy)

/-- The number at the start of a text is that of the longest literal there, read alone; without a
literal there is none. A number that is written alone is read also in front of a text that does not
go on with it. -/
theorem parseLeadingNumber?_longest (text : List Char)
    (hascii : ∀ c ∈ text, Text.isDecimalDigit c = true → c.isDigit = true) :
    ((∃ n literal, IsLongest n literal (Text.trimStart text)) ∨
      ∀ n literal, IsLiteral n literal → ¬ literal <+: Text.trimStart text) ∧
    (∀ n literal, IsLongest n literal (Text.trimStart text) →
      parseLeadingNumber? text = parseNumber? literal ∧
        parseNumber? literal = n.toDecimal.toBinary64.finite?) ∧
    ((∀ n literal, IsLiteral n literal → ¬ literal <+: Text.trimStart text) →
      parseLeadingNumber? text = none) ∧
    ∀ x, parseNumber? text = some x → parseLeadingNumber? text = some x ∧
      ∀ tail, EndsNumeral tail → parseLeadingNumber? (text ++ tail) = some x := by
  refine ⟨?_, fun n literal hlongest => ?_, fun hnone => ?_, fun x hnumber => ⟨?_, ?_⟩⟩
  · cases htake : take? (Text.trimStart text) with
    | none => exact .inr (take?_eq_none_iff.mp htake)
    | some part =>
        obtain ⟨literal, hlongest, -⟩ := take?_eq_some_iff.mp htake
        exact .inl ⟨part.1, literal, hlongest⟩
  · obtain ⟨rest, hrest⟩ := hlongest.leads
    have htake : take? (Text.trimStart text) = some (n, rest) :=
      take?_eq_some_iff.mpr ⟨literal, hlongest, hrest.symm⟩
    have hnumber := parseNumber?_of_isLiteral hlongest.isLiteral
    refine ⟨?_, ?_⟩
    · rw [hnumber, parseLeadingNumber?, htake]
      rfl
    · rw [hnumber, hlongest.isLiteral.finite?_eq]
      intro c hc
      have hstart : c ∈ Text.trimStart text := hlongest.leads.subset hc
      exact hascii c ((List.dropWhile_suffix _).subset hstart)
  · rw [parseLeadingNumber?, take?_eq_none_iff.mpr hnone]
    rfl
  · simpa using parseLeadingNumber?_append hnumber endsNumeral_nil
  · exact fun tail htail => parseLeadingNumber?_append hnumber htail

/-- An exponent without digits does not belong to the literal, and a sign ends one. -/
theorem parseLeadingNumber?_longest_half_exponent :
    (∃ literal, IsLongest ⟨true, ['2'], ['5'], false, []⟩ literal "-2.5e+x".toList ∧
      parseLeadingNumber? " -2.5e+x".toList = parseNumber? literal) ∧
    ∃ x, parseNumber? "1.".toList = some x ∧
      parseLeadingNumber? ("1.".toList ++ "+5".toList) = some x := by
  have htake : take? "-2.5e+x".toList = some (⟨true, ['2'], ['5'], false, []⟩, "e+x".toList) := rfl
  obtain ⟨literal, hlongest, -⟩ := take?_eq_some_iff.mp htake
  obtain ⟨x, hx⟩ : ∃ x, parseNumber? "1.".toList = some x :=
    Option.isSome_iff_exists.mp (by decide +kernel)
  have hends : EndsNumeral "+5".toList := by
    rintro _ ⟨⟩
    decide
  have hascii : ∀ c ∈ " -2.5e+x".toList, Text.isDecimalDigit c = true → c.isDigit = true := by
    simp [Text.isDecimalDigit]
  have hascii' : ∀ c ∈ "1.".toList, Text.isDecimalDigit c = true → c.isDigit = true := by
    simp [Text.isDecimalDigit]
  have hhalf := (parseLeadingNumber?_longest " -2.5e+x".toList hascii).2.1 _ _ hlongest
  have hsign := ((parseLeadingNumber?_longest "1.".toList hascii').2.2.2 x hx).2 _ hends
  exact ⟨⟨literal, hlongest, hhalf.1⟩, x, hx, hsign⟩

end Numbers

end DotQuery
