import EdgeCsv.Proofs.Yaml.Events
import EdgeCsv.Yaml.Document

/-!
# Reading an outline

What a reader makes of a document depends on what its items say, not on where they are. A reader
that takes some items and gives a value does so whatever follows them (`Takes`), so readers of parts
are put together to readers of records.

* `ofText_outline`: the text of an outline is one document with the items of its sections.
* `readRecord_takes`: a record is read from a mapping whose fields can be read one after another.
-/

namespace EdgeCsv.Yaml

/-! ## The items of an outline -/

/-- The items of an entry. -/
def Entry.items (e : Entry) : List Item :=
  [.scalar none e.label.chars true, .scalar none e.text (e.style = .plain)]

/-- The items of the mapping of a section. -/
def Section.items (x : Section) : List Item :=
  .mappingStart :: x.entries.flatMap Entry.items ++ [.mappingEnd]

/-- The items of a document. -/
def outlineItems (xs : List Section) : List Item :=
  .mappingStart :: (xs.flatMap fun x => .scalar none x.label.chars true :: x.items) ++ [.mappingEnd]

namespace Document

/-- The item that an event without properties tells. -/
def item? : Event.Kind → Option Item
  | .scalar ⟨none, none⟩ text plain => some (.scalar none text plain)
  | .mappingStart ⟨none, none⟩ => some .mappingStart
  | .mappingEnd => some .mappingEnd
  | _ => none

theorem gather_item {kind : Event.Kind} {item : Item} (h : item? kind = some item)
    (fault : Option Fault) (d : Draft) (m : Mark) (events : List Event) :
    gather fault d (⟨kind, m⟩ :: events) = gather fault (d.add item m) events := by
  unfold item? at h
  split at h <;> cases h <;> rfl

/-- Events that tell items add them to the document. -/
theorem gather_items {items : List Item} (told : List Event) (rest : List Event)
    (h : told.map (fun event => item? event.kind) = items.map some) (fault : Option Fault)
    (d : Draft) :
    ∃ d', gather fault d (told ++ rest) = gather fault d' rest ∧
      d'.items.map Prod.fst = items.reverse ++ d.items.map Prod.fst := by
  induction told generalizing items d with
  | nil =>
    obtain rfl : items = [] := List.map_eq_nil_iff.1 h.symm
    exact ⟨d, rfl, rfl⟩
  | cons event told ih =>
    obtain ⟨item, items, rfl, hitem, hitems⟩ := List.map_eq_cons_iff.1 h.symm
    obtain ⟨d', heq, hd'⟩ := ih hitems.symm (d.add item event.mark)
    refine ⟨d', ?_, ?_⟩
    · rw [List.cons_append, gather_item hitem.symm, heq]
    · rw [hd']
      simp [Draft.add]

/-- The events of an outline inside of its document tell its items. -/
theorem item?_outline (xs : List Section) :
    (Event.Kind.mappingStart {} :: xs.flatMap Event.sectionEvents ++
        [Event.Kind.mappingEnd]).map item? =
      (outlineItems xs).map some := by
  have hentries : ∀ es : List Entry,
      (es.flatMap Event.entryEvents).map item? = (es.flatMap Entry.items).map some := by
    intro es
    rw [List.map_flatMap, List.map_flatMap]
    rfl
  have hsection : ∀ x : Section, (Event.sectionEvents x).map item? =
      (.scalar none x.label.chars true :: x.items).map some := by
    intro x
    simp only [Event.sectionEvents, Section.items, List.map_append, List.map_cons, List.map_nil,
      hentries]
    rfl
  simp only [outlineItems, List.map_append, List.map_cons, List.map_flatMap, hsection]
  rfl

/-- **The text of an outline** is one document with the items of its sections. -/
theorem ofText_outline {xs : List Section} (hne : xs ≠ []) :
    ∃ doc, ofText (String.ofList (xs.flatMap Section.write)) = (doc, false) ∧ doc.error = none ∧
      doc.items.map Prod.fst = outlineItems xs := by
  obtain ⟨tokens, htokens, hkinds⟩ := Token.stream_write hne
  obtain ⟨events, hevents, htold⟩ := Event.stream_outline hkinds
  have hsplit : Event.documentEvents xs = .streamStart :: .documentStart ::
      ((.mappingStart {} :: xs.flatMap Event.sectionEvents ++ [.mappingEnd]) ++
        [.documentEnd, .streamEnd]) := by
    simp [Event.documentEvents]
  -- around the items, the start and the end of the document add nothing
  obtain ⟨⟨_, m₁⟩, _, rfl, rfl, htold₁⟩ := List.map_eq_cons_iff.1 (htold.trans hsplit)
  obtain ⟨⟨_, m₂⟩, _, rfl, rfl, htold₂⟩ := List.map_eq_cons_iff.1 htold₁
  obtain ⟨told, _, rfl, htold₃, htold₄⟩ := List.map_eq_append_iff.1 htold₂
  obtain ⟨⟨_, m₃⟩, _, rfl, rfl, htold₅⟩ := List.map_eq_cons_iff.1 htold₄
  obtain ⟨⟨_, m₄⟩, ending, rfl, rfl, -⟩ := List.map_eq_cons_iff.1 htold₅
  have hitems : told.map (fun event => item? event.kind) = (outlineItems xs).map some := by
    rw [← item?_outline, ← htold₃, List.map_map]
    rfl
  obtain ⟨d, heq, hd⟩ :=
    gather_items told (⟨.documentEnd, m₃⟩ :: ⟨.streamEnd, m₄⟩ :: ending) hitems none {}
  refine ⟨d.finish none, ?_, rfl, ?_⟩
  · rw [ofText, String.toList_ofList, htokens]
    simp only [hevents, gather, heq]
    rfl
  · rw [Draft.finish, List.map_reverse, hd]
    simp

/-! ## Readers -/

/-- A reader takes some items and gives a value, whatever follows. -/
def Takes {α : Type} (read : Items → Except Error (α × Items)) (taken : List Item) (a : α) : Prop :=
  ∀ items rest, items.map Prod.fst = taken ++ rest →
    ∃ items', read items = .ok (a, items') ∧ items'.map Prod.fst = rest

variable {doc : Document} {α β σ : Type} {item : Item} {taken : List Item} {trail : Trail}

theorem takes_map {read : Items → Except Error (α × Items)} {a : α} (h : Takes read taken a)
    (f : α → β) :
    Takes (fun items => (read items).map fun (a, rest) => (f a, rest)) taken (f a) := by
  intro items rest hitems
  obtain ⟨items', heq, hrest⟩ := h items rest hitems
  refine ⟨items', ?_, hrest⟩
  simp only [heq, Except.map]

/-- An item that is no alias is read where it stands. -/
theorem followAlias_takes {read : Items → Except Error (α × Items)} {a : α}
    (hitem : ∀ n, item ≠ .alias n) (h : Takes read (item :: taken) a) :
    Takes (fun items => doc.followAlias items read) (item :: taken) a := by
  intro items rest hitems
  obtain ⟨⟨first, m⟩, tail, rfl, rfl, -⟩ := List.map_eq_cons_iff.1 hitems
  have hfollow : doc.followAlias ((first, m) :: tail) read = read ((first, m) :: tail) := by
    unfold followAlias
    split
    · rename_i n _ _ heq
      cases heq
      exact absurd rfl (hitem n)
    · rfl
  simp only [hfollow]
  exact h _ rest hitems

/-- Any scalar is a text. -/
theorem readText_takes (expected : String) (trail : Trail) (tag : Option Bytes) (text : List Char)
    (plain : Bool) :
    Takes (doc.readText expected trail) [.scalar tag text plain] (String.ofList text) := by
  refine followAlias_takes (by simp) ?_
  intro items rest hitems
  obtain ⟨⟨_, m⟩, tail, rfl, rfl, htail⟩ := List.map_eq_cons_iff.1 hitems
  exact ⟨tail, rfl, htail⟩

/-- A value that is there. -/
theorem readOption_takes {read : Items → Except Error (α × Items)} {a : α}
    (hitem : ∀ n, item ≠ .alias n) (hpresent : item.isPresent = .ok true)
    (h : Takes read (item :: taken) a) : Takes (doc.readOption read) (item :: taken) (some a) := by
  refine followAlias_takes hitem ?_
  intro items rest hitems
  obtain ⟨⟨_, m⟩, tail, rfl, rfl, -⟩ := List.map_eq_cons_iff.1 hitems
  obtain ⟨items', heq, hrest⟩ := takes_map h some _ rest hitems
  refine ⟨items', ?_, hrest⟩
  simp only [hpresent]
  exact heq

/-- A null in the place of a value. -/
theorem readOption_takes_none {read : Items → Except Error (α × Items)}
    (hitem : ∀ n, item ≠ .alias n) (habsent : item.isPresent = .ok false) :
    Takes (doc.readOption read) [item] none := by
  refine followAlias_takes hitem ?_
  intro items rest hitems
  obtain ⟨⟨_, m⟩, tail, rfl, rfl, htail⟩ := List.map_eq_cons_iff.1 hitems
  refine ⟨tail, ?_, htail⟩
  simp only [habsent]

/-- Fields that can be read one after another, from what has been read before to what has been read
then. -/
inductive Fields (field? : String → Option (Field σ)) (trail : Trail) : σ → List Item → σ → Prop
  | nil (s : σ) : Fields field? trail s [] s
  | cons (name : String) {field : Field σ} {s s' s'' : σ} {value body : List Item}
      (hfield : field? name = some field) (hvalue : Takes (field (some name :: trail) s) value s')
      (hbody : Fields field? trail s' body s'') :
      Fields field? trail s (.scalar none name.toList true :: value ++ body) s''

variable {field? : String → Option (Field σ)} {s s' : σ}

theorem readFields_takes {body : List Item} (h : Fields field? trail s body s') {fuel : Nat}
    (hfuel : body.length < fuel) :
    Takes (doc.readFields field? trail fuel s) (body ++ [.mappingEnd]) s' := by
  induction h generalizing fuel with
  | nil s =>
    intro items rest hitems
    obtain ⟨fuel, rfl⟩ : ∃ n, fuel = n + 1 := ⟨fuel - 1, by omega⟩
    obtain ⟨⟨_, m⟩, tail, rfl, rfl, htail⟩ := List.map_eq_cons_iff.1 hitems
    exact ⟨tail, rfl, htail⟩
  | @cons name field s s₁ s₂ value body hfield hvalue hbody ih =>
    intro items rest hitems
    -- the name of a field is an item, so the fuel for the others is enough
    rw [List.length_append, List.length_cons] at hfuel
    obtain ⟨fuel, rfl⟩ : ∃ n, fuel = n + 1 := ⟨fuel - 1, by omega⟩
    rw [List.append_assoc, List.append_assoc] at hitems
    obtain ⟨⟨_, m⟩, tail, rfl, rfl, htail⟩ := List.map_eq_cons_iff.1 hitems
    obtain ⟨tail₁, heq₁, htail₁⟩ := hvalue tail _ htail
    obtain ⟨tail₂, heq₂, htail₂⟩ :=
      @ih fuel (by omega) tail₁ rest (by rw [htail₁, List.append_assoc])
    refine ⟨tail₂, ?_, htail₂⟩
    have hname : doc.readText "field identifier" trail
        ((.scalar none name.toList true, m) :: tail) = .ok (name, tail) := by
      show Except.ok (String.ofList name.toList, tail) = .ok (name, tail)
      rw [String.ofList_toList]
    rw [readFields]
    simp only [hname, hfield, heq₁, heq₂, bind, Except.bind, String.ofList_toList]

/-- **A record** is read from a mapping whose fields can be read one after another. -/
theorem readRecord_takes {expected : String} {finish : σ → Except Complaint α} {a : α}
    {body : List Item} (h : Fields field? trail s body s') (hfinish : finish s' = .ok a) :
    Takes (doc.readRecord expected field? s finish trail)
      (.mappingStart :: (body ++ [.mappingEnd])) a := by
  refine followAlias_takes (by simp) ?_
  intro items rest hitems
  obtain ⟨⟨_, m⟩, tail, rfl, rfl, htail⟩ := List.map_eq_cons_iff.1 hitems
  have hfuel : body.length < tail.length + 1 := by
    have hlen := congrArg List.length htail
    simp only [List.length_map, List.append_eq, List.length_append] at hlen
    omega
  have hfields : Takes (doc.readFields field? trail (tail.length + 1) s) _ s' :=
    readFields_takes h hfuel
  obtain ⟨tail₁, heq, htail₁⟩ := hfields tail rest htail
  refine ⟨tail₁, ?_, htail₁⟩
  simp only [heq, hfinish, bind, Except.bind, Except.mapError]

/-- A field that has not been read yet. -/
theorem once_takes {name : String} {get : σ → Option α} {set : σ → α → σ}
    {read : Trail → Items → Except Error (α × Items)} {a : α} (hget : get s = none)
    (h : Takes (read trail) taken a) : Takes (once name get set read trail s) taken (set s a) := by
  intro items rest hitems
  obtain ⟨items', heq, hrest⟩ := takes_map h (set s) items rest hitems
  refine ⟨items', ?_, hrest⟩
  rw [once, hget]
  exact heq

/-- **The only document of a text** is read whole. -/
theorem readOnly_outline {xs : List Section} (hne : xs ≠ []) {a : α}
    {read : Document → Items → Except Error (α × Items)}
    (h : ∀ doc, Takes (read doc) (outlineItems xs) a) :
    readOnly (String.ofList (xs.flatMap Section.write)) read = .ok a := by
  obtain ⟨doc, hdoc, herror, hitems⟩ := ofText_outline hne
  obtain ⟨items', heq, -⟩ := h doc doc.items [] (by rw [hitems, List.append_nil])
  rw [readOnly, hdoc]
  simp only [heq, herror, bind, Except.bind]
  rfl

end Document

end EdgeCsv.Yaml
