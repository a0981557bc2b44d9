import FtyDiscovery.Neon.Deserialize

/-! Texts that are delivered in pieces: what a field under `"cdata"` holds of them. -/

namespace FtyDiscovery.Neon

open Base Vectors

/-- The same content, with each run of character data cut anywhere. -/
inductive SameText : Content → Content → Prop where
  | nil : SameText .nil .nil
  | text {pieces pieces' : List Text} {next next' : Content} (whole : pieces.flatten = pieces'.flatten)
      (after : SameText next next') : SameText (.text pieces next) (.text pieces' next')
  | element (name : Text) (attrs : List (Text × Text)) {inner inner' next next' : Content}
      (inside : SameText inner inner') (after : SameText next next') :
      SameText (.element name attrs inner next) (.element name attrs inner' next')

/-- What gets a node with the name `"cdata"`: pieces of text that are not blank, and elements,
without a text of their own. -/
def Content.underCdata : Content → List Text
  | .nil => []
  | .text pieces next => pieces.filter (fun piece => ¬Text.Blank piece) ++ next.underCdata
  | .element name _ _ next => if name = "cdata".toList then [] :: next.underCdata else next.underCdata

/-- The text of each element is in the first node that has the name `"cdata"`. -/
def Whole : Content → Prop
  | .nil => True
  | .text _ next => Whole next
  | .element _ _ inner next => (∀ text ∈ inner.underCdata.tail, text = []) ∧ Whole inner ∧ Whole next

variable (moves : Policy)

/-- The field under `"cdata"` of every element holds the whole text of the element; here are the
nodes from this content on. -/
def EveryCdata (heap : Heap NeonNode) : Content → List NeonNode → Prop
  | .nil, _ => True
  | .text pieces next, nodes => EveryCdata heap next (nodes.drop (pieceNodes pieces).length)
  | .element _ attrs inner next, nodes =>
      ∃ node rest, nodes = node :: rest ∧
        visit moves heap (.value "cdata".toList .nil) node = some (.value (Text.trim inner.ownText) .nil) ∧
        EveryCdata heap inner ((childrenOf heap node).drop attrs.length) ∧ EveryCdata heap next rest

def CdataWhole (doc : Document) : Prop :=
  ∃ parser root, run moves doc.content.callbacks (start moves) = some parser ∧ parser.heap[1]? = some root ∧
    EveryCdata moves parser.heap doc.content root

variable {moves}

theorem Content.byPieces {motive : Content → Prop} (nil : motive .nil)
    (done : ∀ next, motive next → motive (.text [] next))
    (piece : ∀ piece pieces next, motive (.text pieces next) → motive (.text (piece :: pieces) next))
    (element : ∀ name attrs inner next, motive inner → motive next → motive (.element name attrs inner next))
    (content : Content) : motive content := by
  induction content with
  | nil => exact nil
  | text pieces next ih =>
    induction pieces with
    | nil => exact done next ih
    | cons first pieces ih' => exact piece first pieces next ih'
  | element name attrs inner next ih₁ ih₂ => exact element name attrs inner next ih₁ ih₂

namespace Content

theorem underCdata_cons (piece : Text) (pieces : List Text) (next : Content) :
    (text (piece :: pieces) next).underCdata =
      if Text.Blank piece then (text pieces next).underCdata else piece :: (text pieces next).underCdata := by
  by_cases blank : Text.Blank piece <;> simp [underCdata, blank]

theorem ownText_cons (piece : Text) (pieces : List Text) (next : Content) :
    (text (piece :: pieces) next).ownText = piece ++ (text pieces next).ownText := by
  rw [ownText, List.flatten_cons, List.append_assoc, ownText]

theorem mem_underCdata {content : Content} {t : Text} (member : t ∈ content.underCdata) (blank : Text.Blank t) :
    t = [] := by
  induction content using byPieces with
  | nil => cases member
  | done next ih => exact ih member
  | piece first pieces next ih =>
    rw [underCdata_cons] at member
    split at member
    · exact ih member
    · next present =>
      rcases List.mem_cons.mp member with rfl | later
      · exact absurd blank present
      · exact ih later
  | element name attrs inner next _ ih =>
    rw [underCdata] at member
    split at member
    · rcases List.mem_cons.mp member with rfl | later
      · rfl
      · exact ih later
    · exact ih member

theorem solid_underCdata (content : Content) :
    Text.solid content.underCdata.flatten = Text.solid content.ownText := by
  induction content using byPieces with
  | nil => rfl
  | done next ih => exact ih
  | piece first pieces next ih =>
    rw [underCdata_cons, ownText_cons, Text.solid_append, ← ih]
    split
    · next blank => rw [(Text.solid_eq_nil_iff _).mpr blank, List.nil_append]
    · rw [List.flatten_cons, Text.solid_append]
  | element name attrs inner next _ ih =>
    rw [underCdata, ownText, ← ih]
    split
    · rfl
    · rfl

theorem blank_ownText {content : Content} (none : ∀ t ∈ content.underCdata, t = []) :
    Text.Blank content.ownText := by
  rw [← Text.solid_eq_nil_iff, ← solid_underCdata, List.flatten_eq_nil_iff.mpr none]
  rfl

theorem trim_headD_iff (content : Content) :
    Text.trim (content.underCdata.headD []) = Text.trim content.ownText ↔
      ∀ t ∈ content.underCdata.tail, t = [] := by
  constructor
  · intro same t later
    have kept := congrArg Text.solid same
    rw [Text.solid_trim, Text.solid_trim, ← solid_underCdata] at kept
    cases listed : content.underCdata with
    | nil =>
      rw [listed] at later
      cases later
    | cons first rest =>
      rw [listed, List.headD_cons, List.flatten_cons, Text.solid_append] at kept
      rw [listed, List.tail_cons] at later
      have none := (Text.solid_eq_nil_iff _).mp (List.self_eq_append_right.mp kept)
      refine mem_underCdata (?_ : t ∈ content.underCdata) (fun c member => none c ?_)
      · rw [listed]
        exact List.mem_cons_of_mem _ later
      · exact List.mem_flatten_of_mem later member
  · intro empty
    induction content using byPieces with
    | nil => rfl
    | done next ih => exact ih empty
    | piece first pieces next ih =>
      rw [underCdata_cons] at empty ⊢
      rw [ownText_cons]
      split at empty
      · next blank => rw [if_pos blank, Text.trim_append_left blank, ih empty]
      · next present => rw [if_neg present, List.headD_cons, Text.trim_append_right (blank_ownText empty)]
    | element name attrs inner next _ ih =>
      rw [underCdata] at empty ⊢
      rw [ownText]
      split at empty
      · next same =>
        rw [if_pos same, List.headD_cons, (Text.trim_eq_nil_iff _).mpr (blank_ownText empty)]
        rfl
      · next other => rw [if_neg other, ih empty]

end Content

theorem pieceNodes_eq (pieces : List Text) :
    pieceNodes pieces =
      (pieces.filter (fun piece => ¬Text.Blank piece)).map (fun piece => ("cdata".toList, Text.trim piece)) := by
  rw [pieceNodes, List.filter_map, List.map_map]
  refine congrArg _ (List.filter_congr (fun piece _ => ?_))
  by_cases blank : Text.Blank piece
  · simp [blank, (Text.trim_eq_nil_iff piece).mpr blank]
  · simp [blank, mt (Text.trim_eq_nil_iff piece).mp blank]

theorem values_build (content : Content) :
    ((build content).toList.filter (fun child => child.name = "cdata".toList)).map Child.value =
      content.underCdata.map Text.trim := by
  induction content with
  | nil => rfl
  | text pieces next ih =>
    rw [build, Forest.toList_append, List.filter_append, List.map_append, ih, Content.underCdata, List.map_append,
      Forest.toList_leaves, pieceNodes_eq, List.map_map, List.filter_eq_self.mpr, List.map_map]
    · rfl
    · intro child member
      obtain ⟨piece, -, rfl⟩ := List.mem_map.mp member
      rfl
  | element name attrs inner next _ ih =>
    rw [build, Forest.toList, Content.underCdata]
    by_cases same : name = "cdata".toList
    · rw [List.filter_cons_of_pos (by simpa using same), List.map_cons, ih, if_pos same]
      rfl
    · rw [List.filter_cons_of_neg (by simpa using same), ih, if_neg same]

theorem value_cdata (attrs : List (Text × Text)) (inner : Content) :
    ((((Forest.leaves (attrs.map attrName)).append (build inner)).named "cdata".toList).head?.elim []
        (fun found => found.1.value)) = Text.trim (inner.underCdata.headD []) := by
  have values := values_build inner
  have listed := Forest.map_named ((Forest.leaves (attrs.map attrName)).append (build inner)) "cdata".toList
  have attributes : (Forest.leaves (attrs.map attrName)).toList.filter (fun child => child.name = "cdata".toList) = [] := by
    rw [Forest.toList_leaves, List.filter_eq_nil_iff]
    intro child member
    simp only [List.map_map, List.mem_map] at member
    obtain ⟨attr, -, rfl⟩ := member
    simp [attrName]
  rw [Forest.toList_append, List.filter_append, attributes, List.nil_append] at listed
  rw [← listed, List.map_map] at values
  generalize Forest.named _ _ = named at values ⊢
  cases named with
  | nil =>
    rw [List.map_nil, List.nil_eq, List.map_eq_nil_iff] at values
    rw [values]
    rfl
  | cons first rest =>
    cases texts : inner.underCdata with
    | nil =>
      rw [texts] at values
      cases values
    | cons text texts' =>
      rw [texts, List.map_cons, List.map_cons] at values
      exact (List.cons.inj values).1

theorem everyCdata_iff (content : Content) {heap : Heap NeonNode} {lo hi vec index : Nat} {parent : Ptr}
    {nodes : List NeonNode} (stored : Stored moves heap lo hi vec parent index nodes (build content)) :
    EveryCdata moves heap content nodes ↔ Whole content := by
  induction content generalizing vec index parent nodes with
  | nil => exact Iff.rfl
  | text pieces next ih => exact ih (stored_drop stored)
  | element name attrs inner next ih₁ ih₂ =>
    obtain ⟨c, rest, below, rfl, -, -, -, -, -, here, inside, after⟩ := stored
    have under := stored_drop inside
    rw [List.length_map] at under
    have read : visit moves heap (.value "cdata".toList .nil) c =
        some (.value (Text.trim (inner.underCdata.headD [])) .nil) := by
      rw [visit, visit, Option.map_some, value_eq here inside, value_cdata]
    have nodes : childrenOf heap c = below := by rw [childrenOf, here, Option.getD_some]
    rw [Whole, ← Content.trim_headD_iff, ← ih₁ under, ← ih₂ after, EveryCdata]
    constructor
    · intro every
      obtain ⟨_, _, whole, held, inner, next⟩ := every
      obtain ⟨rfl, rfl⟩ := List.cons.inj whole
      refine ⟨?_, nodes ▸ inner, next⟩
      simpa using read.symm.trans held
    · intro every
      obtain ⟨whole, inner, next⟩ := every
      exact ⟨c, rest, rfl, whole ▸ read, nodes ▸ inner, next⟩

theorem pieceNodes_of_whole {pieces : List Text} {next : Content}
    (whole : ∀ t ∈ (Content.text pieces next).underCdata.tail, t = []) :
    pieceNodes pieces =
      if Text.Blank pieces.flatten then [] else [("cdata".toList, Text.trim pieces.flatten)] := by
  have alone : (Content.text pieces .nil).underCdata = pieces.filter (fun piece => ¬Text.Blank piece) :=
    List.append_nil _
  have flat : (Content.text pieces .nil).ownText = pieces.flatten := List.append_nil _
  rw [Content.underCdata] at whole
  rw [pieceNodes_eq]
  cases listed : pieces.filter (fun piece => ¬Text.Blank piece) with
  | nil =>
    rw [listed] at alone
    have blank : Text.Blank (Content.text pieces .nil).ownText := Content.blank_ownText (by simp [alone])
    rw [if_pos (flat ▸ blank), List.map_nil]
  | cons first rest =>
    have solid (piece : Text) (member : piece ∈ first :: rest) : ¬Text.Blank piece := by
      rw [← listed] at member
      exact of_decide_eq_true (List.mem_filter.mp member).2
    cases rest with
    | cons second _ =>
      rw [listed] at whole
      have empty : second = [] := whole second (by simp)
      refine absurd ?_ (solid second (by simp))
      rw [empty]
      exact fun _ member => nomatch member
    | nil =>
      rw [listed] at alone
      have same := (Content.trim_headD_iff (.text pieces .nil)).mpr (by simp [alone])
      rw [alone, flat, List.headD_cons] at same
      rw [if_neg, List.map_singleton, same]
      intro blank
      rw [(Text.trim_eq_nil_iff _).mpr blank, Text.trim_eq_nil_iff] at same
      exact solid first List.mem_cons_self same

theorem tail_of_append {before after : List Text} (empty : ∀ t ∈ (before ++ after).tail, t = []) :
    ∀ t ∈ after.tail, t = [] := by
  intro t member
  cases before with
  | nil => exact empty t member
  | cons first rest => exact empty t (List.mem_append_right _ (List.mem_of_mem_tail member))

theorem build_eq {content content' : Content} (same : SameText content content')
    (whole : ∀ t ∈ content.underCdata.tail, t = []) (whole' : ∀ t ∈ content'.underCdata.tail, t = [])
    (below : Whole content) (below' : Whole content') : build content = build content' := by
  induction same with
  | nil => rfl
  | text joined after ih =>
    rw [build, build, pieceNodes_of_whole whole, pieceNodes_of_whole whole', joined,
      ih (tail_of_append whole) (tail_of_append whole') below below']
  | element name attrs inside after ih₁ ih₂ =>
    obtain ⟨one, inner, next⟩ := below
    obtain ⟨one', inner', next'⟩ := below'
    have rest {content : Content} (empty : ∀ t ∈ (if name = "cdata".toList then [] :: content.underCdata
        else content.underCdata).tail, t = []) : ∀ t ∈ content.underCdata.tail, t = [] := by
      split at empty
      · exact tail_of_append (show ∀ t ∈ ([[]] ++ content.underCdata).tail, t = [] from empty)
      · exact empty
    rw [build, build, ih₁ one one' inner inner', ih₂ (rest whole) (rest whole') next next']

/-- Every field under `"cdata"` holds the whole text exactly when that text is in one node. -/
theorem cdataWhole_iff (doc : Document) : CdataWhole moves doc ↔ Whole doc.content := by
  obtain ⟨heap, added, ran, grown⟩ := run_content doc.content (start_at moves)
  rw [← everyCdata_iff doc.content grown.stored]
  constructor
  · intro ⟨parser, root, ran', here, every⟩
    obtain rfl := Option.some.inj (ran.symm.trans ran')
    obtain rfl := Option.some.inj (grown.here.symm.trans here)
    exact every
  · intro every
    exact ⟨_, _, ran, grown.here, every⟩

theorem forest_eq {doc doc' : Document} (same : SameText doc.content doc'.content) (whole : Whole doc.content)
    (whole' : Whole doc'.content) : doc.forest = doc'.forest := by
  have alone (doc : Document) : ∀ t ∈ doc.content.underCdata.tail, t = [] := by
    rw [Document.content, Content.underCdata]
    split <;> exact fun _ member => nomatch member
  have nodes := build_eq same (alone doc) (alone doc') whole whole'
  exact (Forest.node.inj nodes).2.2.2.1

/-- Two deliveries of a document fill a target, with the same values and every text whole, exactly when the
text of each element is in one node in both and every list of the target reaches its owner. -/
theorem deserialize_same_iff (moves : Policy) {doc doc' : Document} (same : SameText doc.content doc'.content)
    (fields : Fields) :
    ((∃ filled, deserialize moves doc.content.callbacks fields = some filled ∧
          deserialize moves doc'.content.callbacks fields = some filled) ∧
        CdataWhole moves doc ∧ CdataWhole moves doc') ↔
      Whole doc.content ∧ Whole doc'.content ∧ Reaches moves fields true doc.forest := by
  rw [cdataWhole_iff, cdataWhole_iff, ← visitForest_defined_iff]
  constructor
  · rintro ⟨⟨filled, here, -⟩, whole, whole'⟩
    exact ⟨whole, whole', filled, (deserialize_eq doc fields).symm.trans here⟩
  · rintro ⟨whole, whole', filled, visited⟩
    refine ⟨⟨filled, (deserialize_eq doc fields).trans visited, ?_⟩, whole, whole'⟩
    rw [deserialize_eq, ← forest_eq same whole whole', visited]

def sampleElement (pieces : List String) : Document where
  name := "OBJECT".toList
  attrs := [("name".toList, "UPS.Output".toList)]
  inner := .text (pieces.map String.toList) .nil

theorem sampleElement_same (pieces pieces' : List String)
    (joined : (pieces.map String.toList).flatten = (pieces'.map String.toList).flatten) :
    SameText (sampleElement pieces).content (sampleElement pieces').content :=
  .element _ _ (.text joined .nil) .nil

def sampleFields : Fields := .value "a::name".toList (.value "cdata".toList .nil)

theorem sampleElement_blanks :
    (∃ filled, deserialize doubling (sampleElement [" R&D\n"]).content.callbacks sampleFields = some filled ∧
        deserialize doubling (sampleElement [" ", "R&D", "\n"]).content.callbacks sampleFields = some filled) ∧
      CdataWhole doubling (sampleElement [" R&D\n"]) ∧ CdataWhole doubling (sampleElement [" ", "R&D", "\n"]) := by
  refine (deserialize_same_iff doubling (sampleElement_same _ _ (by decide)) sampleFields).mpr ⟨?_, ?_, ?_⟩
  · exact ⟨by decide, trivial, trivial⟩
  · exact ⟨by decide, trivial, trivial⟩
  · trivial

theorem sampleElement_in_pieces :
    SameText (sampleElement ["R&D"]).content (sampleElement ["R", "&", "D"]).content ∧
      deserialize doubling (sampleElement ["R&D"]).content.callbacks (.value "cdata".toList .nil) =
        some (.value "R&D".toList .nil) ∧
      deserialize doubling (sampleElement ["R", "&", "D"]).content.callbacks (.value "cdata".toList .nil) =
        some (.value "R".toList .nil) ∧
      ¬∀ fields, deserialize doubling (sampleElement ["R&D"]).content.callbacks fields =
        deserialize doubling (sampleElement ["R", "&", "D"]).content.callbacks fields := by
  have whole : deserialize doubling (sampleElement ["R&D"]).content.callbacks (.value "cdata".toList .nil) =
      some (.value "R&D".toList .nil) := by rfl
  have cut : deserialize doubling (sampleElement ["R", "&", "D"]).content.callbacks (.value "cdata".toList .nil) =
      some (.value "R".toList .nil) := by rfl
  refine ⟨sampleElement_same _ _ (by decide), whole, cut, fun equal => ?_⟩
  have same := Filled.value.inj (Option.some.inj (whole.symm.trans ((equal _).trans cut)))
  exact absurd same.1 (by decide)

end FtyDiscovery.Neon
