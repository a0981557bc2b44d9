import Mathlib.Data.List.Flatten
import FtyDiscovery.Base.Text
import FtyDiscovery.Nut.Mapper

/-! The mapping file, JSON with the comments of C++, and what of it is handed to the JSON parser. -/

namespace FtyDiscovery.Nut

open Base Text

structure Trimming where
  trimmed : Text → Text
  trimmed_eq : ∀ text, trimmed text = trim text

def Trimming.plain : Trimming := ⟨trim, fun _ => rfl⟩

variable {utils : Trimming}

namespace Mapper

def isComment (utils : Trimming) (line : Text) : Bool :=
  find "//".toList (utils.trimmed line) = some 0 || find "/*".toList (utils.trimmed line) = some 0

/-- What `mapping` reads from its file for the JSON parser. -/
def mapCnt (utils : Trimming) (file : Text) : Text :=
  (getlines file).foldl (fun mapCnt line => if isComment utils line then mapCnt else mapCnt ++ (line ++ ['\n'])) []

theorem mapCnt_eq (utils : Trimming) (file : Text) : mapCnt utils file =
    ((getlines file).filter (fun line => !isComment utils line)).flatMap (fun line => line ++ ['\n']) := by
  have all (lines : List Text) (before : Text) :
      lines.foldl (fun mapCnt line => if isComment utils line then mapCnt else mapCnt ++ (line ++ ['\n'])) before =
        before ++ (lines.filter (fun line => !isComment utils line)).flatMap (fun line => line ++ ['\n']) := by
    induction lines generalizing before with
    | nil => exact (List.append_nil before).symm
    | cons line lines ih =>
      rw [List.foldl_cons, ih]
      by_cases comment : isComment utils line = true
      · rw [if_pos comment, List.filter_cons_of_neg (by simp [comment])]
      · rw [if_neg comment, List.filter_cons_of_pos (by simp [comment]), List.flatMap_cons, List.append_assoc]
  exact all (getlines file) []

end Mapper

namespace MappingFile

inductive Piece where
  | token (text : Text)
  | space (c : Char)
  | lineComment (text : Text)
  | blockComment (text : Text)
  deriving DecidableEq

namespace Piece

def text : Piece → Text
  | token text => text
  | space c => [c]
  | lineComment text => "//".toList ++ text
  | blockComment text => "/*".toList ++ text ++ "*/".toList

/-- A token stands on one line and starts with a character of its own, as those of JSON do. -/
def Valid : Piece → Prop
  | token text => '\n' ∉ text ∧ ∃ first rest, text = first :: rest ∧ isSpace first = false ∧ first ≠ '/'
  | space c => isSpace c = true
  | lineComment text => '\n' ∉ text
  | blockComment text => find "*/".toList text = none

/-- The end of a line ends a comment that starts with `//`. -/
def Before : Piece → Piece → Prop
  | lineComment _, next => next = space '\n'
  | _, _ => True

end Piece

structure Document where
  pieces : List Piece
  valid : ∀ piece ∈ pieces, piece.Valid
  chain : pieces.IsChain Piece.Before

inductive Fragment where
  | token (text : Text)
  | blank (c : Char)
  | comment (c : Char)
  deriving DecidableEq

def Fragment.text : Fragment → Text
  | token text => text
  | blank c => [c]
  | comment c => [c]

abbrev Line := List Fragment

def Line.text (line : Line) : Text := line.flatMap Fragment.text

def Line.tokens (line : Line) : List Text :=
  line.filterMap (fun fragment => match fragment with | .token text => some text | _ => none)

def Line.Commented (line : Line) : Prop := ∃ c, .comment c ∈ line ∧ isSpace c = false

def putFirst (fragment : Fragment) : List Line → List Line
  | [] => [[fragment]]
  | line :: lines => (fragment :: line) :: lines

def putComment (text : Text) (lines : List Line) : List Line :=
  text.foldr (fun c lines => if c = '\n' then [] :: lines else putFirst (.comment c) lines) lines

def linesOf : List Piece → List Line
  | [] => []
  | .token text :: pieces => putFirst (.token text) (linesOf pieces)
  | .space c :: pieces => if c = '\n' then [] :: linesOf pieces else putFirst (.blank c) (linesOf pieces)
  | .lineComment text :: pieces => putComment (Piece.lineComment text).text (linesOf pieces)
  | .blockComment text :: pieces => putComment (Piece.blockComment text).text (linesOf pieces)

namespace Document

def text (doc : Document) : Text := doc.pieces.flatMap Piece.text

def tokens (doc : Document) : List Text :=
  doc.pieces.filterMap (fun piece => match piece with | .token text => some text | _ => none)

def lines (doc : Document) : List Line := linesOf doc.pieces

def kept (utils : Trimming) (doc : Document) : List Line :=
  doc.lines.filter (fun line => !Mapper.isComment utils line.text)

end Document

inductive Consists : List Text → Text → Prop where
  | done {blank : Text} (white : Blank blank) : Consists [] blank
  | token {before text rest : Text} {tokens : List Text} (white : Blank before) (others : Consists tokens rest) :
      Consists (text :: tokens) (before ++ (text ++ rest))

/-- What is handed to the parser is the tokens of the file, and no comment is left in it. -/
def Strips (utils : Trimming) (doc : Document) : Prop :=
  Consists doc.tokens (Mapper.mapCnt utils doc.text) ∧ ∀ line ∈ doc.kept utils, ¬line.Commented

def glue (text : Text) : List Text → List Text
  | [] => [text]
  | line :: lines => (text ++ line) :: lines

theorem text_putFirst (fragment : Fragment) (lines : List Line) :
    (putFirst fragment lines).map Line.text = glue fragment.text (lines.map Line.text) := by
  cases lines with
  | nil => simp only [putFirst, List.map_cons, List.map_nil, Line.text, List.flatMap_cons, List.flatMap_nil,
      List.append_nil, glue]
  | cons line lines => simp only [putFirst, List.map_cons, Line.text, List.flatMap_cons, glue]

theorem getlines_cons {c : Char} (inside : c ≠ '\n') (text : Text) :
    getlines (c :: text) = glue [c] (getlines text) := by
  rw [getlines, if_neg inside]
  cases getlines text with
  | nil => rfl
  | cons line lines => rfl

theorem getlines_token {text : Text} (some_text : text ≠ []) (one : '\n' ∉ text) (rest : Text) :
    getlines (text ++ rest) = glue text (getlines rest) := by
  induction text with
  | nil => exact absurd rfl some_text
  | cons c text ih =>
    have inside : c ≠ '\n' := fun same => one (same ▸ List.mem_cons_self)
    rw [List.cons_append, getlines_cons inside]
    by_cases more : text = []
    · rw [more, List.nil_append]
    · rw [ih more (fun member => one (List.mem_cons_of_mem c member))]
      cases getlines rest with
      | nil => rfl
      | cons line lines => rfl

theorem getlines_comment (text rest : Text) {lines : List Line} (read : getlines rest = lines.map Line.text) :
    getlines (text ++ rest) = (putComment text lines).map Line.text := by
  induction text with
  | nil => exact read
  | cons c text ih =>
    rw [List.cons_append, putComment, List.foldr_cons, ← putComment]
    split
    next ends =>
      rw [getlines, if_pos ends, ih]
      rfl
    next inside => rw [getlines_cons inside, ih, text_putFirst, Fragment.text]

theorem getlines_linesOf {pieces : List Piece} (valid : ∀ piece ∈ pieces, piece.Valid) :
    getlines (pieces.flatMap Piece.text) = (linesOf pieces).map Line.text := by
  induction pieces with
  | nil => rfl
  | cons piece pieces ih =>
    have rest := ih (fun other member => valid other (List.mem_cons_of_mem piece member))
    have here := valid piece List.mem_cons_self
    rw [List.flatMap_cons]
    cases piece with
    | token text =>
      obtain ⟨one, first, more, rfl, -⟩ := here
      rw [Piece.text, getlines_token (List.cons_ne_nil first more) one, rest, linesOf, text_putFirst, Fragment.text]
    | space c =>
      rw [linesOf]
      split
      next ends =>
        rw [Piece.text, List.singleton_append, getlines, if_pos ends, rest]
        rfl
      next inside =>
        rw [Piece.text, List.singleton_append, getlines_cons inside, rest, text_putFirst, Fragment.text]
    | lineComment text => exact getlines_comment _ _ rest
    | blockComment text => exact getlines_comment _ _ rest

theorem mapCnt_kept (utils : Trimming) (doc : Document) :
    Mapper.mapCnt utils doc.text = (doc.kept utils).flatMap (fun line => line.text ++ ['\n']) := by
  rw [Mapper.mapCnt_eq, Document.text, getlines_linesOf doc.valid, List.filter_map, List.flatMap_map]
  rfl

def Fragment.Valid : Fragment → Prop
  | token text => ∃ first rest, text = first :: rest ∧ isSpace first = false ∧ first ≠ '/'
  | blank c => isSpace c = true
  | comment _ => True

theorem valid_putFirst {fragment : Fragment} {lines : List Line} (here : fragment.Valid)
    (others : ∀ line ∈ lines, ∀ other ∈ line, other.Valid) :
    ∀ line ∈ putFirst fragment lines, ∀ other ∈ line, other.Valid := by
  cases lines with
  | nil => simpa [putFirst] using here
  | cons first lines =>
    intro line member other inside
    rcases List.mem_cons.mp member with rfl | later
    · rcases List.mem_cons.mp inside with rfl | behind
      · exact here
      · exact others first List.mem_cons_self other behind
    · exact others line (List.mem_cons_of_mem first later) other inside

theorem valid_nil_cons {lines : List Line} (others : ∀ line ∈ lines, ∀ other ∈ line, other.Valid) :
    ∀ line ∈ [] :: lines, ∀ other ∈ line, other.Valid := by
  intro line member other inside
  rcases List.mem_cons.mp member with rfl | later
  · cases inside
  · exact others line later other inside

theorem valid_putComment (text : Text) {lines : List Line}
    (others : ∀ line ∈ lines, ∀ other ∈ line, other.Valid) :
    ∀ line ∈ putComment text lines, ∀ other ∈ line, other.Valid := by
  induction text with
  | nil => exact others
  | cons c text ih =>
    rw [putComment, List.foldr_cons, ← putComment]
    split
    next => exact valid_nil_cons ih
    next => exact valid_putFirst trivial ih

theorem valid_linesOf {pieces : List Piece} (valid : ∀ piece ∈ pieces, piece.Valid) :
    ∀ line ∈ linesOf pieces, ∀ fragment ∈ line, fragment.Valid := by
  induction pieces with
  | nil =>
    intro line member
    cases member
  | cons piece pieces ih =>
    have rest := ih (fun other member => valid other (List.mem_cons_of_mem piece member))
    have here := valid piece List.mem_cons_self
    cases piece with
    | token text => exact valid_putFirst here.2 rest
    | space c =>
      rw [linesOf]
      split
      next => exact valid_nil_cons rest
      next => exact valid_putFirst here rest
    | lineComment text => exact valid_putComment _ rest
    | blockComment text => exact valid_putComment _ rest

theorem tokens_cons (fragment : Fragment) (line : Line) :
    Line.tokens (fragment :: line) = Line.tokens [fragment] ++ line.tokens := by
  cases fragment <;> rfl

theorem tokens_putFirst (fragment : Fragment) (lines : List Line) :
    (putFirst fragment lines).flatMap Line.tokens = Line.tokens [fragment] ++ lines.flatMap Line.tokens := by
  cases lines with
  | nil => rfl
  | cons line lines =>
    rw [putFirst, List.flatMap_cons, List.flatMap_cons, ← List.append_assoc, tokens_cons]

theorem tokens_putComment (text : Text) (lines : List Line) :
    (putComment text lines).flatMap Line.tokens = lines.flatMap Line.tokens := by
  induction text with
  | nil => rfl
  | cons c text ih =>
    rw [putComment, List.foldr_cons, ← putComment]
    split
    next => exact ih
    next => exact (tokens_putFirst _ _).trans ih

theorem tokens_lines (doc : Document) : doc.lines.flatMap Line.tokens = doc.tokens := by
  rw [Document.lines, Document.tokens]
  induction doc.pieces with
  | nil => rfl
  | cons piece pieces ih =>
    cases piece with
    | token text => exact (tokens_putFirst _ _).trans (congrArg (text :: ·) ih)
    | space c =>
      rw [linesOf]
      split
      next => exact ih
      next => exact (tokens_putFirst _ _).trans ih
    | lineComment text => exact (tokens_putComment _ _).trans ih
    | blockComment text => exact (tokens_putComment _ _).trans ih

theorem not_isComment_token {before rest : Text} {first : Char} (white : Blank before)
    (visible : isSpace first = false) (other : first ≠ '/') :
    Mapper.isComment utils (before ++ first :: rest) = false := by
  have start (mark : Char) : ¬['/', mark] <+: trim (before ++ first :: rest) := by
    intro marked
    rw [trim_append_left white, trim, List.dropWhile_cons_of_neg (by simp [visible])] at marked
    have whole := marked.trans (List.rdropWhile_prefix _ _)
    exact other (List.cons_prefix_cons.mp whole).1.symm
  have apart (mark : Char) : find ['/', mark] (trim (before ++ first :: rest)) ≠ some 0 :=
    fun found => start mark ((find_eq_zero_iff _ _).mp found)
  rw [Mapper.isComment, utils.trimmed_eq, Bool.or_eq_false_iff]
  exact ⟨decide_eq_false (apart '/'), decide_eq_false (apart '*')⟩

theorem not_isComment_blank {line : Text} (white : Blank line) : Mapper.isComment utils line = false := by
  rw [Mapper.isComment, utils.trimmed_eq, (trim_eq_nil_iff line).mpr white]
  decide

theorem Consists.blank_append {tokens : List Text} {text before : Text} (white : Blank before)
    (consists : Consists tokens text) : Consists tokens (before ++ text) := by
  have both {after : Text} (white' : Blank after) : Blank (before ++ after) :=
    fun c member => (List.mem_append.mp member).elim (white c) (white' c)
  cases consists with
  | done white' => exact .done (both white')
  | token white' others =>
    rw [← List.append_assoc]
    exact .token (both white') others

theorem Consists.append {first second : List Text} {before after : Text} (consists : Consists first before)
    (then_consists : Consists second after) : Consists (first ++ second) (before ++ after) := by
  induction consists with
  | done white => exact then_consists.blank_append white
  | token white _ ih =>
    rw [List.append_assoc, List.append_assoc]
    exact .token white ih

theorem clean_line (utils : Trimming) {line : Line} (valid : ∀ fragment ∈ line, fragment.Valid)
    (clean : ¬line.Commented) : Consists line.tokens line.text ∧
      ∀ before, Blank before → Mapper.isComment utils (before ++ line.text) = false := by
  induction line with
  | nil =>
    refine ⟨.done (by simp [Blank, Line.text]), fun before white => ?_⟩
    rw [Line.text, List.flatMap_nil, List.append_nil]
    exact not_isComment_blank white
  | cons fragment line ih =>
    have clean_rest : ¬Line.Commented line := by
      intro commented
      obtain ⟨c, member, visible⟩ := commented
      exact clean ⟨c, List.mem_cons_of_mem fragment member, visible⟩
    obtain ⟨consists, uncommented⟩ := ih
      (fun other member => valid other (List.mem_cons_of_mem fragment member)) clean_rest
    have here := valid fragment List.mem_cons_self
    have spaced {c : Char} (white : isSpace c = true) : Consists (Line.tokens line) ([c] ++ Line.text line) ∧
        ∀ before, Blank before → Mapper.isComment utils (before ++ ([c] ++ Line.text line)) = false := by
      have blank : Blank [c] := by simpa [Blank] using white
      refine ⟨consists.blank_append blank, fun before white' => ?_⟩
      rw [← List.append_assoc]
      apply uncommented
      exact fun d member => (List.mem_append.mp member).elim (white' d) (blank d)
    cases fragment with
    | token text =>
      obtain ⟨first, rest, rfl, visible, other⟩ := here
      have nothing : Blank [] := by simp [Blank]
      refine ⟨Consists.token nothing consists, fun before white => ?_⟩
      exact not_isComment_token white visible other
    | blank c => exact spaced here
    | comment c =>
      have white : isSpace c = true := by
        by_contra visible
        exact clean ⟨c, List.mem_cons_self, by simpa using visible⟩
      exact spaced white

theorem consists_lines {lines : List Line} (valid : ∀ line ∈ lines, ∀ fragment ∈ line, fragment.Valid)
    (clean : ∀ line ∈ lines, ¬line.Commented) :
    Consists (lines.flatMap Line.tokens) (lines.flatMap (fun line => Line.text line ++ ['\n'])) := by
  induction lines with
  | nil => exact .done (by simp [Blank])
  | cons line lines ih =>
    have here := (clean_line .plain (valid line List.mem_cons_self) (clean line List.mem_cons_self)).1
    have rest := ih (fun other member => valid other (List.mem_cons_of_mem line member))
      (fun other member => clean other (List.mem_cons_of_mem line member))
    rw [List.flatMap_cons, List.flatMap_cons, List.append_assoc]
    exact here.append (rest.blank_append (by simp [Blank, isSpace]))

theorem Consists.solid_eq {tokens : List Text} {text : Text} (consists : Consists tokens text) :
    solid text = tokens.flatMap solid := by
  induction consists with
  | done white => exact (solid_eq_nil_iff _).mpr white
  | token white _ ih =>
    rw [solid_append, solid_append, (solid_eq_nil_iff _).mpr white, ih, List.nil_append, List.flatMap_cons]

theorem flatMap_filter_eq_iff {α β : Type} {f : α → List β} {p : α → Bool} {l : List α} :
    (l.filter p).flatMap f = l.flatMap f ↔ ∀ a ∈ l, p a = false → f a = [] := by
  induction l with
  | nil => simp only [List.filter_nil, List.not_mem_nil, false_imp_iff, implies_true]
  | cons first l ih =>
    rw [List.forall_mem_cons, ← ih]
    by_cases keeps : p first = true
    · rw [List.filter_cons_of_pos keeps, List.flatMap_cons, List.flatMap_cons, List.append_cancel_left_eq, keeps]
      simp only [Bool.true_eq_false, false_imp_iff, true_and]
    · rw [List.filter_cons_of_neg keeps, List.flatMap_cons]
      rw [Bool.not_eq_true] at keeps
      simp only [keeps, true_imp_iff]
      constructor
      · intro same
        have shorter := (List.Sublist.flatMap (List.filter_sublist (p := p) (l := l)) f).length_le
        have length := congrArg List.length same
        rw [List.length_append] at length
        have none : f first = [] := List.eq_nil_of_length_eq_zero (by omega)
        rw [none, List.nil_append] at same
        exact ⟨none, same⟩
      · intro nothing
        rw [nothing.1, nothing.2, List.nil_append]

def WholeLines (utils : Trimming) (doc : Document) : Prop :=
  ∀ line ∈ doc.lines, line.Commented → line.tokens = [] ∧ Mapper.isComment utils line.text = true

theorem tokens_eq_nil {line : Line} (valid : ∀ fragment ∈ line, fragment.Valid)
    (nothing : line.tokens.flatMap solid = []) : line.tokens = [] := by
  apply List.eq_nil_iff_forall_not_mem.mpr
  intro text member
  obtain ⟨fragment, inside, found⟩ := List.mem_filterMap.mp member
  cases fragment with
  | token text' =>
    obtain rfl := Option.some.inj found
    obtain ⟨first, rest, rfl, visible, -⟩ := valid _ inside
    have blank := (solid_eq_nil_iff _).mp (List.flatMap_eq_nil_iff.mp nothing _ member)
    rw [blank first List.mem_cons_self] at visible
    cases visible
  | blank c => cases found
  | comment c => cases found

/-- The comments are stripped, and nothing else, exactly where they fill their lines and every
line of them starts with the mark of one. -/
theorem strips_iff (utils : Trimming) (doc : Document) : Strips utils doc ↔ WholeLines utils doc := by
  have valid := valid_linesOf doc.valid
  have valid_kept : ∀ line ∈ doc.kept utils, ∀ fragment ∈ line, fragment.Valid :=
    fun line member => valid line (List.mem_filter.mp member).1
  constructor
  · intro strips line member commented
    have dropped : Mapper.isComment utils line.text = true := by
      by_contra keeps
      exact strips.2 line (List.mem_filter.mpr ⟨member, by simpa using keeps⟩) commented
    refine ⟨tokens_eq_nil (valid line member) ?_, dropped⟩
    have handed := (consists_lines valid_kept strips.2).solid_eq
    rw [← mapCnt_kept, strips.1.solid_eq, ← tokens_lines, List.flatMap_assoc, List.flatMap_assoc] at handed
    exact flatMap_filter_eq_iff.mp handed.symm line member (by simp [dropped])
  · intro whole
    have clean : ∀ line ∈ doc.kept utils, ¬line.Commented := by
      intro line member commented
      obtain ⟨inside, keeps⟩ := List.mem_filter.mp member
      rw [(whole line inside commented).2] at keeps
      cases keeps
    have same : (doc.kept utils).flatMap Line.tokens = doc.tokens := by
      rw [← tokens_lines]
      apply flatMap_filter_eq_iff.mpr
      intro line member dropped
      by_contra some_token
      have uncommented := (clean_line utils (valid line member)
        (fun commented => some_token (whole line member commented).1)).2 [] (by simp [Blank])
      rw [List.nil_append] at uncommented
      rw [uncommented] at dropped
      cases dropped
    have handed := consists_lines valid_kept clean
    rw [same, ← mapCnt_kept] at handed
    exact ⟨handed, clean⟩

def rowThenComment : Document where
  pieces :=
    [.token "\x7b".toList, .token "\"device.model\"".toList, .token ":".toList, .token "\"model\"".toList,
      .space ' ', .lineComment " type".toList, .space '\n', .token "\x7d".toList]
  valid := by
    simp only [List.forall_mem_cons, Piece.Valid]
    exact ⟨⟨by decide, _, _, rfl, rfl, by decide⟩, ⟨by decide, _, _, rfl, rfl, by decide⟩,
      ⟨by decide, _, _, rfl, rfl, by decide⟩, ⟨by decide, _, _, rfl, rfl, by decide⟩, rfl, by decide, rfl,
      ⟨by decide, _, _, rfl, rfl, by decide⟩, List.forall_mem_nil _⟩
  chain := by simp [Piece.Before]

def commentThenRow : Document where
  pieces :=
    [.token "\x7b".toList, .space '\n', .blockComment " type ".toList, .space ' ',
      .token "\"device.model\"".toList, .token ":".toList, .token "\"model\"".toList, .space '\n',
      .token "\x7d".toList]
  valid := by
    simp only [List.forall_mem_cons, Piece.Valid]
    exact ⟨⟨by decide, _, _, rfl, rfl, by decide⟩, rfl, by decide, rfl, ⟨by decide, _, _, rfl, rfl, by decide⟩,
      ⟨by decide, _, _, rfl, rfl, by decide⟩, ⟨by decide, _, _, rfl, rfl, by decide⟩, rfl,
      ⟨by decide, _, _, rfl, rfl, by decide⟩, List.forall_mem_nil _⟩
  chain := by simp [Piece.Before]

theorem shared_lines :
    Mapper.mapCnt .plain rowThenComment.text = "\x7b\"device.model\":\"model\" // type\n\x7d\n".toList ∧
    Mapper.mapCnt .plain commentThenRow.text = "\x7b\n\x7d\n".toList ∧
    ¬Strips .plain rowThenComment ∧ ¬Strips .plain commentThenRow := by
  refine ⟨by decide, by decide, fun strips => ?_, fun strips => ?_⟩
  · exact absurd strips.1.solid_eq (by decide)
  · exact absurd strips.1.solid_eq (by decide)

end MappingFile

end FtyDiscovery.Nut
