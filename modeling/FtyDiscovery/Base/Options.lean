import FtyDiscovery.Base.Text

/-! The options of a command line as `getopt` reads them: which letters take an argument is told by a
table, and the first text that is no option ends them. -/

namespace FtyDiscovery.Base.Options

abbrev Table := Char → Option Bool

abbrev Opt := Char × Option Text

/-- The letters of one text; the last of them may have its argument in the next. -/
def letters (table : Table) : Text → Option (List Opt × Option Char)
  | [] => some ([], none)
  | c :: rest =>
      match table c with
      | none => none
      | some true => if rest.isEmpty then some ([], some c) else some ([(c, some rest)], none)
      | some false => (letters table rest).map (fun read => ((c, none) :: read.1, read.2))

/-- The options, and the texts behind them; nothing where one is unknown or its argument is missing. -/
def read (table : Table) : Option Char → List Text → Option (List Opt × List Text)
  | none, [] => some ([], [])
  | some _, [] => none
  | some c, arg :: args => (read table none args).map (fun rest => ((c, some arg) :: rest.1, rest.2))
  | none, arg :: args =>
      match arg with
      | ['-', '-'] => some ([], args)
      | '-' :: c :: more =>
          (letters table (c :: more)).bind (fun here =>
            (read table here.2 args).map (fun rest => (here.1 ++ rest.1, rest.2)))
      | _ => some ([], arg :: args)

def render (opts : List (Char × Text)) : List Text := opts.flatMap (fun opt => [['-', opt.1], opt.2])

theorem render_append (first second : List (Char × Text)) : render (first ++ second) = render first ++ render second :=
  List.flatMap_append ..

theorem read_option {table : Table} {c : Char} (takes : table c = some true) (dash : c ≠ '-') (arg : Text)
    (args : List Text) :
    read table none (['-', c] :: arg :: args) =
      (read table none args).map (fun rest => ((c, some arg) :: rest.1, rest.2)) := by
  rw [read]
  · simp only [letters, takes, List.isEmpty_nil, if_true, Option.bind_some, read, List.nil_append, Option.map_map]
    rfl
  · exact fun same _ => dash same

/-- What is rendered is read back, whatever the arguments are: none is taken for an option. -/
theorem read_render {table : Table} (opts : List (Char × Text))
    (takes : ∀ opt ∈ opts, table opt.1 = some true ∧ opt.1 ≠ '-') :
    read table none (render opts) = some (opts.map (fun opt => (opt.1, some opt.2)), []) := by
  induction opts with
  | nil => rfl
  | cons opt opts ih =>
    obtain ⟨here, dash⟩ := takes opt List.mem_cons_self
    have later := ih (fun other member => takes other (List.mem_cons_of_mem opt member))
    rw [render, List.flatMap_cons, List.cons_append, List.cons_append, List.nil_append, read_option here dash]
    rw [render] at later
    rw [later, Option.map_some, List.map_cons]

theorem map_render (f : Text → Text) (opts : List (Char × Text)) (plain : ∀ opt ∈ opts, f ['-', opt.1] = ['-', opt.1]) :
    (render opts).map f = render (opts.map (fun opt => (opt.1, f opt.2))) := by
  induction opts with
  | nil => rfl
  | cons opt opts ih =>
    have later := ih (fun other member => plain other (List.mem_cons_of_mem opt member))
    rw [render, List.flatMap_cons, List.map_append, List.map_cons, List.map_cons, List.map_nil,
      plain opt List.mem_cons_self]
    rw [render] at later
    rw [later]
    rfl

/-- `name=value`, split at the first equals sign; without one it is all name. -/
def assignment (arg : Text) : Text × Option Text :=
  match arg.dropWhile (fun c => c != '=') with
  | [] => (arg, none)
  | _ :: value => (arg.takeWhile (fun c => c != '='), some value)

theorem assignment_eq {name : Text} (plain : '=' ∉ name) (value : Text) :
    assignment (name ++ '=' :: value) = (name, some value) := by
  have before : ∀ c ∈ name, (c != '=') = true := fun c member => bne_iff_ne.mpr (ne_of_mem_of_not_mem member plain)
  rw [assignment, List.dropWhile_append_of_pos before, List.takeWhile_append_of_pos before]
  simp

end FtyDiscovery.Base.Options
