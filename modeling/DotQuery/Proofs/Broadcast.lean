import DotQuery.Proofs.LeadingKeys
import DotQuery.Proofs.ReferencePath

/-!
# Broadcasting over a sequence

A broadcast answers for each element what the whole path answers on the document whose sequence
holds that element alone. Operators see the document through a reference path only, so putting the
element into the document and walking there from the root comes to the same as walking from a
sequence of one.
-/

namespace DotQuery

open Query Attempt

namespace Context

variable {ctx : Context} {body : String} {keys : List String} {items : List Json}
  {segments rest : List Segment}

/-- The same time and the document in which `item` alone makes up the sequence behind the keys. -/
def withOnly (ctx : Context) (keys : List String) (item : Json) : Context :=
  { ctx with root := ctx.root.replaceAt keys (.arr [item]) }

section Engine

variable [Regex.Engine]

theorem agree_walk_withOnly (hleads : ctx.root.LeadsTo keys items)
    (hreference : ∀ call, .call call ∈ rest → ¬call.NamesReference) (item : Json) :
    Agree (ctx.walk (.arr [item]) rest)
      ((ctx.withOnly keys item).walk (ctx.withOnly keys item).root (keys.map .key ++ rest)) := by
  have honly : (ctx.withOnly keys item).root.LeadsTo keys [item] := hleads.replaceAt [item]
  have hnow : (ctx.withOnly keys item).now = ctx.now := rfl
  have hwalk : (ctx.withOnly keys item).walk (.arr [item]) rest = ctx.walk (.arr [item]) rest :=
    walk_eq_of_not_namesReference hnow hreference _
  rw [← hwalk]
  exact (agree_walk_of_leadsTo _ honly rest).symm

/-- The answer for one element and the answer on its own document agree. -/
theorem agree_broadcastItem (hparse : parseSegments body = .ok (keys.map .key ++ rest))
    (hcall : ∃ call, .call call ∈ rest)
    (hreference : ∀ call, .call call ∈ rest → ¬call.NamesReference)
    (hleads : ctx.root.LeadsTo keys items) (item : Json) :
    Agree (ctx.broadcastItem rest item) ((ctx.withOnly keys item).evaluatePath body) := by
  obtain ⟨call, hmem⟩ := hcall
  have hrest : rest.isEmpty = false := by
    rw [List.isEmpty_eq_false_iff]
    exact List.ne_nil_of_mem hmem
  rw [broadcastItem, hrest, if_neg Bool.false_ne_true,
    evaluatePath_eq_walk _ hparse ⟨call, List.mem_append_right _ hmem⟩]
  exact agree_walk_withOnly hleads hreference item

/-- A broadcast succeeds if its path succeeds on the document of each single element; its items are
then the values found there. It fails with the kind of error that the path meets on the first of
these documents that it fails on. -/
theorem broadcast_elementwise (hparse : parseSegments body = .ok segments)
    (hcall : ∃ call, .call call ∈ segments)
    (hreference : ∀ call, .call call ∈ segments → ¬call.NamesReference)
    (hsegments : segments = keys.map .key ++ rest) (hleads : ctx.root.LeadsTo keys items) :
    ((∃ value, ctx.broadcast body = .ok value) ↔
      ∀ item ∈ items, ∃ value, (ctx.withOnly keys item).evaluatePath body = .ok value) ∧
    (∀ value, ctx.broadcast body = .ok value → ∃ values, value = .arr values ∧
      List.Forall₂ (fun item value => (ctx.withOnly keys item).evaluatePath body = .ok value)
        items values) ∧
    ∀ found, ctx.broadcast body = .error found →
      ∃ before item after failure, items = before ++ item :: after ∧
        (∀ earlier ∈ before, ∃ value,
          (ctx.withOnly keys earlier).evaluatePath body = .ok value) ∧
        (ctx.withOnly keys item).evaluatePath body = .error failure ∧
        failure.kind = found.kind := by
  subst hsegments
  have hrestCall : ∃ call, Segment.call call ∈ rest := by
    obtain ⟨call, hmem⟩ := hcall
    refine ⟨call, (List.mem_append.mp hmem).resolve_left ?_⟩
    simp
  have hrestReference : ∀ call, .call call ∈ rest → ¬call.NamesReference :=
    fun call hmem => hreference call (List.mem_append_right _ hmem)
  have hitems : Agree (items.mapM (ctx.broadcastItem rest))
      (items.mapM fun item => (ctx.withOnly keys item).evaluatePath body) :=
    Agree.mapM items fun item _ =>
      agree_broadcastItem hparse hrestCall hrestReference hleads item
  rw [broadcast_eq_mapM ctx hparse hleads]
  refine ⟨?_, ?_, ?_⟩
  · rw [← exists_mapM_eq_ok_iff, ← hitems.isOk_iff]
    simp only [bind_eq_ok_iff]
    exact ⟨fun ⟨_, values, hvalues, _⟩ => ⟨values, hvalues⟩,
      fun ⟨values, hvalues⟩ => ⟨.arr values, values, hvalues, rfl⟩⟩
  · intro value hvalue
    obtain ⟨values, hvalues, harr⟩ := bind_eq_ok_iff.mp hvalue
    cases harr
    exact ⟨values, rfl, mapM_eq_ok_iff.mp (hitems.ok_iff.mp hvalues)⟩
  · intro found hfound
    have hmapM : items.mapM (ctx.broadcastItem rest) = .error found := by
      simpa [bind_eq_error_iff] using hfound
    obtain ⟨failure, hfailure, hkind⟩ := hitems.exists_error hmapM
    obtain ⟨before, item, after, hsplit, hbefore, hitem⟩ := exists_of_mapM_eq_error hfailure
    exact ⟨before, item, after, failure, hsplit, hbefore, hitem, hkind⟩

end Engine

open scoped Regex.Standard

/-- Of two elements below `a.b` the second lacks the field, and so does its own document. -/
theorem broadcast_elementwise_missing_field :
    ∃ before item after failure,
      [Json.obj [("x", .null)], .str "x"] = before ++ item :: after ∧
        (∀ earlier ∈ before, ∃ value,
          (withOnly ⟨.obj [("a", .obj [("b", .arr [.obj [("x", .null)], .str "x"])])], ⟨0, 0⟩⟩
            ["a", "b"] earlier).evaluatePath "a.b.map(x).count()" = .ok value) ∧
        (withOnly ⟨.obj [("a", .obj [("b", .arr [.obj [("x", .null)], .str "x"])])], ⟨0, 0⟩⟩
            ["a", "b"] item).evaluatePath "a.b.map(x).count()" = .error failure ∧
        failure.kind = .error .path := by
  have hparse : parseSegments "a.b.map(x).count()" =
      .ok (["a", "b"].map .key ++ [.call ⟨.map, "x", "map(x)"⟩, .call ⟨.count, "", "count()"⟩]) :=
    rfl
  have hreference : ∀ call, Segment.call call ∈
      ["a", "b"].map .key ++ [.call ⟨.map, "x", "map(x)"⟩, .call ⟨.count, "", "count()"⟩] →
      ¬call.NamesReference := by
    intro call hmem
    simp only [List.map_cons, List.map_nil, List.cons_append, List.nil_append, List.mem_cons,
      List.not_mem_nil, or_false, reduceCtorEq, false_or, Segment.call.injEq] at hmem
    rcases hmem with rfl | rfl <;> decide
  exact (broadcast_elementwise hparse ⟨⟨.map, "x", "map(x)"⟩, by simp⟩ hreference rfl
    (.member rfl (.member rfl (.here _)))).2.2 (.error (.noField "x" "map(x)")) rfl

end Context

end DotQuery
