import DotQuery.Regex.Search

/-!
What the operators rely on of the engine that matches patterns. They are written over any engine,
whatever syntax it reads. The one of this library knows no Unicode property classes, which need the
tables of the character database; programs that run select it by opening `Regex.Standard`.
-/

namespace DotQuery.Regex

/-- An engine finds the first match of a pattern in a text, if there is one, or tells what is wrong
with the pattern. A match is a part of the text. -/
class Engine where
  find? (pattern text : List Char) : Except String (Option (List Char))
  infix_of_find? {pattern text found : List Char} :
    find? pattern text = .ok (some found) → found <:+: text

theorem infix_of_find? {pattern text found : List Char}
    (hfind : find? pattern text = .ok (some found)) : found <:+: text := by
  cases hparse : parse pattern with
  | error malformation => simp [find?, hparse, bind, Except.bind] at hfind
  | ok parsed =>
      simp only [find?, hparse, bind, Except.bind, pure, Except.pure, Except.ok.injEq,
        Option.map_eq_some_iff] at hfind
      obtain ⟨bounds, -, rfl⟩ := hfind
      exact (List.take_prefix _ _).isInfix.trans (List.drop_suffix _ _).isInfix

namespace Standard

scoped instance engine : Engine where
  find? pattern text := (Regex.find? pattern text).mapError Malformation.message
  infix_of_find? {pattern text found} hfind := by
    cases hresult : Regex.find? pattern text with
    | error malformation =>
        rw [hresult] at hfind
        cases hfind
    | ok result =>
        rw [hresult] at hfind
        obtain rfl := Except.ok.inj hfind
        exact Regex.infix_of_find? hresult

end Standard

end DotQuery.Regex
