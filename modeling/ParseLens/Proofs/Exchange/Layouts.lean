import ParseLens.Exchange.Request
import ParseLens.Proofs.Json.ReadBack

set_option autoImplicit false

/-!
# Exchange: both layouts of a request are read back

A request is sent in one of two layouts, and the reader is not told which.  It takes in the tree of
the body and tries the nested layout first.  A flat body is never taken for a nested one: under
`grammar` it has the productions, whose members are lists, and a grammar in the nested layout has
an object under `productions`.  This holds whatever the non-terminals are called.
-/

namespace ParseLens

open Json (ReadsBack Value)

/-! ## Trees -/

namespace Grammar

/-- The tree of the productions is read back, for two brackets inside each other. -/
theorem readsBack_tree_productions (productions : OrderedMap (List String)) :
    ReadsBack 2 Value.decoder (productionsToJson productions) (productionsToJson productions) := by
  refine Value.readsBack_object ?_
  intro m hm
  obtain ⟨entry, -, rfl⟩ := List.mem_map.1 hm
  refine Value.readsBack_array ?_
  intro v hv
  obtain ⟨s, -, rfl⟩ := List.mem_map.1 hv
  exact Value.readsBack_string s

theorem readsBack_tree (g : Grammar) : ReadsBack 3 Value.decoder g.toJson g.toJson := by
  refine Value.readsBack_object ?_
  intro m hm
  simp only [List.mem_cons, List.not_mem_nil, or_false] at hm
  rcases hm with rfl | rfl
  · exact readsBack_tree_productions g.productions
  · exact (Value.readsBack_string g.start).mono (by decide)

end Grammar

namespace ParseRequest

theorem readsBack_tree (r : ParseRequest) (shape : RequestShape) :
    ReadsBack 4 Value.decoder (r.toJson shape) (r.toJson shape) := by
  cases shape with
  | nested =>
    refine Value.readsBack_object ?_
    intro m hm
    simp only [List.mem_cons, List.not_mem_nil, or_false] at hm
    rcases hm with rfl | rfl
    · exact r.grammar.readsBack_tree
    · exact (Value.readsBack_string r.input).mono (by decide)
  | flat =>
    refine Value.readsBack_object ?_
    intro m hm
    simp only [List.mem_cons, List.not_mem_nil, or_false] at hm
    rcases hm with rfl | rfl | rfl
    · exact (Grammar.readsBack_tree_productions r.grammar.productions).mono (by decide)
    · exact (Value.readsBack_string r.grammar.start).mono (by decide)
    · exact (Value.readsBack_string r.input).mono (by decide)

end ParseRequest

/-! ## Parts of a request -/

theorem mem_of_onlyMember_eq_some {name : String} {members : List (String × Value)} {v : Value}
    (h : onlyMember name members = some v) : (name, v) ∈ members := by
  unfold onlyMember at h
  split at h
  · rename_i m hfilter
    have hm : m ∈ members.filter fun m => m.1 == name := by
      rw [hfilter]
      exact List.mem_singleton_self m
    obtain ⟨hmem, hname⟩ := List.mem_filter.1 hm
    obtain rfl : m.2 = v := Option.some.inj h
    rw [← eq_of_beq hname]
    exact hmem
  · simp at h

/-- Writing each element of a list and reading each of them gives back the list. -/
theorem mapM_map_of_inverse {α β : Type} {read : β → Option α} {write : α → β}
    (h : ∀ a, read (write a) = some a) (l : List α) : (l.map write).mapM read = some l := by
  induction l with
  | nil => rfl
  | cons a l ih => simp [List.mapM_cons, h, ih]

@[simp] theorem textOf_string (s : String) : textOf (.string s) = some s := rfl

@[simp] theorem textsOf_texts (ss : List String) : textsOf (Value.texts ss) = some ss := by
  rw [Value.texts, textsOf]
  exact mapM_map_of_inverse textOf_string ss

/-- The productions are read with their order. -/
theorem productionsOf_productionsToJson (productions : OrderedMap (List String)) :
    productionsOf (Grammar.productionsToJson productions) = some productions := by
  rw [Grammar.productionsToJson, productionsOf, mapM_map_of_inverse]
  · simp [OrderedMap.ofList_entries]
  · intro entry
    simp

theorem grammarOf_toJson (g : Grammar) : grammarOf g.toJson = some g := by
  simp [grammarOf, Grammar.toJson, onlyMember, productionsOf_productionsToJson]

/-- Productions are never a grammar, not even those of a non-terminal called `productions`: what
stands under a non-terminal is a list, and not an object. -/
theorem grammarOf_productionsToJson (productions : OrderedMap (List String)) :
    grammarOf (Grammar.productionsToJson productions) = none := by
  rw [Grammar.productionsToJson, grammarOf]
  cases honly : onlyMember "productions"
      (productions.entries.map fun entry => (entry.1, Value.texts entry.2)) with
  | none => rfl
  | some v =>
    -- a non-terminal is called so; its alternatives are no object
    obtain ⟨entry, -, hentry⟩ := List.mem_map.1 (mem_of_onlyMember_eq_some honly)
    obtain ⟨-, rfl⟩ := Prod.mk.inj hentry
    rfl

/-! ## Requests -/

namespace ParseRequest

/-- The members of a request in the given layout. -/
def members (r : ParseRequest) : RequestShape → List (String × Value)
  | .nested => [("grammar", r.grammar.toJson), ("input_string", .string r.input)]
  | .flat => [
      ("grammar", Grammar.productionsToJson r.grammar.productions),
      ("start_symbol", .string r.grammar.start),
      ("input_string", .string r.input)]

theorem toJson_eq_object (r : ParseRequest) (shape : RequestShape) :
    r.toJson shape = .object (r.members shape) := by
  cases shape <;> rfl

theorem ofNested_members_nested (r : ParseRequest) : ofNested (r.members .nested) = some r := by
  simp [ofNested, members, onlyMember, grammarOf_toJson]

theorem ofNested_members_flat (r : ParseRequest) : ofNested (r.members .flat) = none := by
  simp [ofNested, members, onlyMember, grammarOf_productionsToJson]

theorem ofFlat_members_flat (r : ParseRequest) : ofFlat (r.members .flat) = some r := by
  simp [ofFlat, members, onlyMember, productionsOf_productionsToJson]

theorem ofValue_toJson (r : ParseRequest) (shape : RequestShape) :
    ofValue (r.toJson shape) = .ok r := by
  rw [toJson_eq_object, ofValue]
  cases shape with
  | nested => rw [ofNested_members_nested]; rfl
  | flat => rw [ofNested_members_flat, ofFlat_members_flat]; rfl

theorem readsBack (r : ParseRequest) (shape : RequestShape) :
    ReadsBack 4 decoder (r.toJson shape) r :=
  (r.readsBack_tree shape).mapOrRefuse (r.ofValue_toJson shape)

theorem decode_request_body (r : ParseRequest) (shape : RequestShape) :
    decoder.decode (r.body shape) = .ok r :=
  (r.readsBack shape).decode_compact (by decide)

theorem decode_tree_body (r : ParseRequest) (shape : RequestShape) :
    Value.decoder.decode (r.body shape) = .ok (.object (r.members shape)) := by
  rw [body, (r.readsBack_tree shape).decode_compact (by decide), toJson_eq_object]

/-- The layout of a body shows: the flat one is the one that is refused as a nested request. -/
theorem ofNested_members_eq_none_iff (r : ParseRequest) (shape : RequestShape) :
    ofNested (r.members shape) = none ↔ shape = .flat := by
  cases shape with
  | nested => simp [ofNested_members_nested]
  | flat => simp [ofNested_members_flat]

/-- A request is read back from its body in either layout, with the order of its productions, and
the two bodies are read as the same request.  The reader never mistakes a layout: the members of a
flat body are refused as a nested request, whatever the non-terminals are called, and are then read
as a flat one. -/
theorem decode_body (r : ParseRequest) :
    (∀ shape, decoder.decode (r.body shape) = .ok r) ∧
    decoder.decode (r.body .nested) = decoder.decode (r.body .flat) ∧
    (∃ ms, Value.decoder.decode (r.body .nested) = .ok (.object ms) ∧ ofNested ms = some r) ∧
    ∃ ms, Value.decoder.decode (r.body .flat) = .ok (.object ms) ∧
      ofNested ms = none ∧ ofFlat ms = some r := by
  have hdecode := r.decode_request_body
  refine ⟨hdecode, by rw [hdecode, hdecode], ?_, ?_⟩
  · exact ⟨_, r.decode_tree_body .nested, r.ofNested_members_nested⟩
  · exact ⟨_, r.decode_tree_body .flat, r.ofNested_members_flat, r.ofFlat_members_flat⟩

end ParseRequest

end ParseLens
