import DotQuery.Proofs.PlainQuery
import DotQuery.Proofs.ReferenceLookup

/-!
# The path that a broadcast names

A broadcast that finds no sequence behind its leading keys quotes the path to it, which it counts
off by dots in the text of the query. The keys come apart at the dots outside brackets only, so the
two are the same exactly if no key has a dot in it.
-/

namespace DotQuery

open Query Attempt

namespace Query

variable {keys : List String}

theorem dottedKeys_dotted (hne : keys ≠ []) :
    dottedKeys (dotted keys) = keys.flatMap dottedKeys := by
  rw [dottedKeys, toList_dotted, Text.fields_intercalate (by simpa using hne), List.flatMap_map,
    List.map_flatMap]
  rfl

theorem length_le_length_flatMap_dottedKeys (keys : List String) :
    keys.length ≤ (keys.flatMap dottedKeys).length := by
  calc keys.length = (keys.map fun _ => 1).sum := by simp
    _ ≤ (keys.map fun key => (dottedKeys key).length).sum :=
        List.sum_le_sum fun key _ => length_dottedKeys_pos key
    _ = (keys.flatMap dottedKeys).length := by rw [List.length_flatMap]

/-- What has come apart at all its dots has no dots left. -/
theorem dot_not_mem_of_mem_flatMap (keys : List String) :
    ∀ piece ∈ keys.flatMap dottedKeys, '.' ∉ piece.toList := by
  intro piece hmem
  obtain ⟨key, -, hpiece⟩ := List.mem_flatMap.mp hmem
  obtain ⟨part, hpart, rfl⟩ := List.mem_map.mp hpiece
  rw [String.toList_ofList]
  exact Text.not_mem_of_mem_fields part hpart

/-- Joined, the first pieces of the keys make up the joined keys only if they are all pieces. -/
theorem dotted_take_eq_iff (hne : keys ≠ []) :
    dotted ((keys.flatMap dottedKeys).take keys.length) = dotted keys ↔
      ∀ key ∈ keys, '.' ∉ key.toList := by
  constructor
  · intro hsame key hmem hdot
    have hmore := length_lt_length_flatMap_dottedKeys hmem hdot
    have htake : (keys.flatMap dottedKeys).take keys.length ≠ [] := by
      rw [← List.length_pos_iff, List.length_take_of_le hmore.le]
      exact List.length_pos_iff.mpr hne
    have hpieces := congrArg dottedKeys hsame
    rw [dottedKeys_dotted hne, dottedKeys_dotted htake, flatMap_dottedKeys_eq_self
      fun piece hpiece => dot_not_mem_of_mem_flatMap keys piece (List.mem_of_mem_take hpiece)]
      at hpieces
    rw [List.take_eq_self_iff] at hpieces
    omega
  · intro hdots
    rw [flatMap_dottedKeys_eq_self hdots, List.take_length]

end Query

namespace Context

variable {ctx : Context} {body : String} {keys : List String} {rest : List Segment}
  {value target : Json}

theorem beforeDot_eq (index : Nat) (text : List Char) :
    beforeDot index text = ['.'].intercalate ((Text.fields '.' text).take (index + 1)) := by
  induction text generalizing index with
  | nil => simp [beforeDot, Text.fields, Text.separate]
  | cons c rest ih =>
      by_cases hdot : c = '.'
      · have hfields : Text.fields '.' (c :: rest) = [] :: Text.fields '.' rest := by
          simp [Text.fields, Text.separate, hdot]
        rw [hfields, List.take_succ_cons]
        cases index with
        | zero => simp [beforeDot, hdot]
        | succ index =>
            rw [List.intercalate_cons_of_ne_nil (by simp [Text.fields]), ← ih]
            simp [beforeDot, hdot]
      · have hfields : Text.fields '.' (c :: rest) =
            (c :: (Text.separate '.' rest).1) :: (Text.separate '.' rest).2 := by
          simp [Text.fields, Text.separate, hdot]
        have hstep : beforeDot index (c :: rest) = c :: beforeDot index rest := by
          simp [beforeDot, hdot]
        rw [hfields, hstep, ih, Text.fields, List.take_succ_cons, List.take_succ_cons]
        cases (Text.separate '.' rest).2.take index <;> simp [List.intercalate_cons_cons]

/-- The path is as many pieces of the text between its dots as keys have been taken. -/
theorem leadText_succ (body : String) (taken : Nat) :
    leadText body (taken + 1) = dotted ((dottedKeys body).take (taken + 1)) := by
  rw [← String.toList_inj, toList_dotted, leadText, String.toList_ofList, beforeDot_eq, dottedKeys,
    ← List.map_take, List.map_map]
  simp [Function.comp_def]

/-- Keys up to a value that is no sequence are all taken. -/
theorem lead_of_descends (hdescends : value.Descends keys target)
    (harray : target.isArray = false) (hrest : ∀ name, rest.head? ≠ some (.key name))
    (taken : Nat) :
    lead value taken (keys.map .key ++ rest) = .ok ⟨target, taken + keys.length, rest⟩ := by
  induction hdescends generalizing taken with
  | here value =>
      cases rest with
      | nil => rfl
      | cons segment rest =>
          cases segment with
          | key name => exact absurd rfl (hrest name)
          | call call => rfl
  | @member members key child keys target hmember hchild ih =>
      simp only [List.map_cons, List.cons_append, lead, Json.isArray, Bool.false_eq_true,
        ↓reduceIte, Json.member?, hmember, ih harray, List.length_cons]
      congr 2
      omega

theorem broadcast_of_descends [Regex.Engine]
    (hparse : parseSegments body = .ok (keys.map .key ++ rest))
    (hrest : ∀ name, rest.head? ≠ some (.key name)) (hdescends : ctx.root.Descends keys target)
    (harray : target.isArray = false) :
    ctx.broadcast body =
      .error (.error (.broadcastNeedsSequence (leadText body keys.length))) := by
  rw [broadcast, hparse, ofExcept_ok, ok_bind, lead_of_descends hdescends harray hrest, ok_bind,
    Nat.zero_add]
  cases target with
  | arr items => cases harray
  | _ => rfl

theorem leadText_eq_take (hparse : parseSegments body = .ok (keys.map .key ++ rest))
    (hne : keys ≠ []) :
    leadText body keys.length = dotted ((keys.flatMap dottedKeys).take keys.length) := by
  have hpieces : dottedKeys body =
      keys.flatMap dottedKeys ++ rest.flatMap fun segment => dottedKeys segment.text := by
    rw [dottedKeys_eq_flatMap_text hparse, List.flatMap_append, List.flatMap_map]
    rfl
  obtain ⟨taken, htaken⟩ := Nat.exists_eq_succ_of_ne_zero (List.length_pos_iff.mpr hne).ne'
  rw [htaken, leadText_succ, hpieces, ← Nat.succ_eq_add_one, ← htaken,
    List.take_append_of_le_length (length_le_length_flatMap_dottedKeys keys)]

/-- Where the leading keys lead to a value that is no sequence, the path in the error is that of
these keys exactly if there is no dot in any of them. -/
theorem broadcast_names_path [Regex.Engine]
    (hparse : parseSegments body = .ok (keys.map .key ++ rest))
    (hne : keys ≠ []) (hrest : ∀ name, rest.head? ≠ some (.key name))
    (hdescends : ctx.root.Descends keys target) (harray : target.isArray = false) :
    ∃ path, ctx.broadcast body = .error (.error (.broadcastNeedsSequence path)) ∧
      path = dotted ((keys.flatMap dottedKeys).take keys.length) ∧
      (path = dotted keys ↔ ∀ key ∈ keys, '.' ∉ key.toList) := by
  refine ⟨_, broadcast_of_descends hparse hrest hdescends harray, leadText_eq_take hparse hne, ?_⟩
  rw [leadText_eq_take hparse hne, dotted_take_eq_iff hne]

open scoped Regex.Standard

/-- Two keys, one of them with brackets, in front of a call, and a key with nothing behind it. -/
theorem broadcast_names_path_brackets :
    let ctx : Context := ⟨.obj [("a[x]", .obj [("b", .bool true)]), ("c", .null)], ⟨0, 0⟩⟩
    ctx.broadcast "a[x].b.count()" = .error (.error (.broadcastNeedsSequence "a[x].b")) ∧
      ctx.broadcast "c" = .error (.error (.broadcastNeedsSequence "c")) := by
  intro ctx
  have hkeys : ctx.root.Descends ["a[x]", "b"] (.bool true) := .member rfl (.member rfl (.here _))
  have hkey : ctx.root.Descends ["c"] .null := .member rfl (.here _)
  have hparse : parseSegments "a[x].b.count()" =
      .ok (["a[x]", "b"].map .key ++ [.call ⟨.count, "", "count()"⟩]) := rfl
  have hparse' : parseSegments "c" = .ok (["c"].map .key ++ []) := rfl
  obtain ⟨path, hpath, -, hsame⟩ :=
    broadcast_names_path hparse (by decide) (by simp) hkeys rfl
  obtain ⟨path', hpath', -, hsame'⟩ :=
    broadcast_names_path hparse' (by decide) (by simp) hkey rfl
  obtain rfl : path = "a[x].b" := hsame.mpr (by decide)
  obtain rfl : path' = "c" := hsame'.mpr (by decide)
  exact ⟨hpath, hpath'⟩

/-- The dot in the brackets of a key is counted too. -/
theorem broadcast_cuts_within_brackets :
    let ctx : Context := ⟨.obj [("a[x.y]", .bool true)], ⟨0, 0⟩⟩
    parseSegments "a[x.y]" = .ok [.key "a[x.y]"] ∧
      ctx.root.Descends ["a[x.y]"] (.bool true) ∧
      ctx.broadcast "a[x.y]" = .error (.error (.broadcastNeedsSequence "a[x")) :=
  ⟨rfl, .member rfl (.here _), rfl⟩

end Context

end DotQuery
