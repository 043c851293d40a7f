import Mathlib.Data.List.Induction
import TunProxy.SystemCalls

/-!
# Paths as texts

A path in text form: its names are what stands between the slashes, however
many these are, and a slash at its end gives one more component without a
name when it is walked through.
-/

namespace TunProxy

namespace PathText

open ByteText

/-! ## Names -/

/-- The names in a text, of which the first has begun already. -/
def namesFrom : Bytes → Bytes → List Bytes
  | begun, [] => if begun = [] then [] else [begun]
  | begun, byte :: rest =>
      if byte = slash then
        if begun = [] then namesFrom [] rest else begun :: namesFrom [] rest
      else namesFrom (begun ++ [byte]) rest

def names (path : Bytes) : List Bytes :=
  namesFrom [] path

/-- What can be the name of a file. -/
def IsName (name : Bytes) : Prop :=
  name ≠ [] ∧ slash ∉ name

instance (name : Bytes) : Decidable (IsName name) :=
  inferInstanceAs (Decidable (_ ∧ _))

theorem ascii_slash : ascii "/" = [slash] := by decide

theorem namesFrom_slash (begun front back : Bytes) :
    namesFrom begun (front ++ slash :: back) = namesFrom begun front ++ names back := by
  induction front generalizing begun with
  | nil =>
      by_cases empty : begun = []
      · simp [namesFrom, names, empty]
      · simp [namesFrom, names, empty]
  | cons byte front ih =>
      by_cases separates : byte = slash
      · by_cases empty : begun = []
        · simp [namesFrom, separates, empty, ih]
        · simp [namesFrom, separates, empty, ih]
      · simp [namesFrom, separates, ih]

theorem names_slash (front back : Bytes) :
    names (front ++ slash :: back) = names front ++ names back :=
  namesFrom_slash [] front back

theorem names_concat_slash (path : Bytes) : names (path ++ [slash]) = names path := by
  rw [names_slash]
  exact List.append_nil _

theorem namesFrom_of_notMem {begun rest : Bytes} (absent : slash ∉ rest) :
    namesFrom begun rest = if begun ++ rest = [] then [] else [begun ++ rest] := by
  induction rest generalizing begun with
  | nil => simp [namesFrom]
  | cons byte rest ih =>
      have different : byte ≠ slash := fun same => absent (by simp [same])
      have absentRest : slash ∉ rest := fun member => absent (by simp [member])
      simp [namesFrom, different, ih absentRest]

theorem names_of_isName {name : Bytes} (isName : IsName name) : names name = [name] := by
  rw [names, namesFrom_of_notMem isName.2, List.nil_append, if_neg isName.1]

theorem isName_of_mem_namesFrom {begun rest name : Bytes} (clean : slash ∉ begun)
    (member : name ∈ namesFrom begun rest) : IsName name := by
  induction rest generalizing begun with
  | nil =>
      by_cases empty : begun = []
      · simp [namesFrom, empty] at member
      · obtain rfl : name = begun := by simpa [namesFrom, empty] using member
        exact ⟨empty, clean⟩
  | cons byte rest ih =>
      by_cases separates : byte = slash
      · by_cases empty : begun = []
        · exact ih List.not_mem_nil (by simpa [namesFrom, separates, empty] using member)
        · rcases (by simpa [namesFrom, separates, empty] using member :
            name = begun ∨ name ∈ namesFrom [] rest) with rfl | later
          · exact ⟨empty, clean⟩
          · exact ih List.not_mem_nil later
      · have longer : slash ∉ begun ++ [byte] := by simp [clean, Ne.symm separates]
        exact ih longer (by simpa [namesFrom, separates] using member)

theorem isName_of_mem_names {path name : Bytes} (member : name ∈ names path) : IsName name :=
  isName_of_mem_namesFrom (by simp) member

/-! ## Components -/

/-- What a walk over `relative_path()` comes to. -/
def components (path : Bytes) : List Bytes :=
  if names path = [] then []
  else if path.getLast? = some slash then names path ++ [[]]
  else names path

/-- The components that are names. -/
def named (walk : List Bytes) : List Bytes :=
  walk.filter (· ≠ [])

@[simp] theorem named_nil : named [] = [] := rfl

@[simp] theorem named_append (front back : List Bytes) :
    named (front ++ back) = named front ++ named back :=
  List.filter_append ..

theorem named_cons_nil (rest : List Bytes) : named ([] :: rest) = named rest := by
  simp [named]

theorem named_cons_of_ne_nil {component : Bytes} (nonempty : component ≠ [])
    (rest : List Bytes) : named (component :: rest) = component :: named rest := by
  simp [named, nonempty]

theorem named_eq_self {walk : List Bytes} (allNames : ∀ name ∈ walk, IsName name) :
    named walk = walk := by
  apply List.filter_eq_self.mpr
  intro name member
  simpa using (allNames name member).1

theorem named_components (path : Bytes) : named (components path) = names path := by
  have same : named (names path) = names path := named_eq_self fun _ => isName_of_mem_names
  unfold components
  split
  next empty => simp [empty]
  next =>
    split
    · rw [named_append, same, named_cons_nil, named_nil, List.append_nil]
    · exact same

/-- A component is a name, or it is empty and stands behind the names. -/
theorem isName_of_mem_components {path component : Bytes} (member : component ∈ components path)
    (nonempty : component ≠ []) : IsName component := by
  have inNames : component ∈ named (components path) := by simp [named, member, nonempty]
  rw [named_components] at inNames
  exact isName_of_mem_names inNames

theorem components_split {path component : Bytes} {front rest : List Bytes}
    (split : components path = front ++ component :: rest) :
    (∀ name ∈ front, IsName name) ∧
      (component = [] → rest = [] ∧ front = names path ∧ front ≠ []) := by
  have ofNames {back : List Bytes} (names_eq : names path = front ++ component :: back) :
      (∀ name ∈ front, IsName name) ∧ component ≠ [] := by
    have all : ∀ name ∈ front ++ component :: back, IsName name :=
      fun name member => isName_of_mem_names (names_eq ▸ member)
    exact ⟨fun name member => all name (by simp [member]), (all component (by simp)).1⟩
  unfold components at split
  split at split
  next => simp at split
  next nonempty =>
    split at split
    · rcases List.eq_nil_or_concat' rest with rfl | ⟨between, last, rfl⟩
      · obtain ⟨rfl, rfl⟩ := List.append_inj' split rfl |>.imp_right List.singleton_inj.mp
        exact ⟨fun name member => isName_of_mem_names member, fun _ => ⟨rfl, rfl, nonempty⟩⟩
      · rw [← List.cons_append, ← List.append_assoc] at split
        obtain ⟨allNames, componentNonempty⟩ := ofNames (List.append_inj' split rfl).1
        exact ⟨allNames, fun empty => absurd empty componentNonempty⟩
    · obtain ⟨allNames, componentNonempty⟩ := ofNames split
      exact ⟨allNames, fun empty => absurd empty componentNonempty⟩

/-! ## Joining -/

/-- `operator/=` with a path that is not absolute. -/
def joinPath (current relative : Bytes) : Bytes :=
  if current = [] ∨ current.getLast? = some slash then current ++ relative
  else current ++ slash :: relative

theorem names_joinPath (current relative : Bytes) :
    names (joinPath current relative) = names current ++ names relative := by
  unfold joinPath
  split
  next separated =>
    rcases separated with rfl | last
    · simp [names, namesFrom]
    · obtain ⟨front, rfl⟩ := List.getLast?_eq_some_iff.mp last
      rw [names_concat_slash, List.append_assoc, List.singleton_append, names_slash]
  next => exact names_slash current relative

theorem getLast?_joinPath {current component : Bytes} (isName : IsName component) :
    (joinPath current component).getLast? ≠ some slash := by
  intro ends
  obtain ⟨begin, last, rfl⟩ := List.eq_nil_or_concat' component |>.resolve_left isName.1
  have final : (joinPath current (begin ++ [last])).getLast? = some last := by
    unfold joinPath
    split
    · rw [← List.append_assoc, List.getLast?_concat]
    · rw [← List.cons_append, ← List.append_assoc, List.getLast?_concat]
  obtain rfl := Option.some.inj (final.symm.trans ends)
  exact isName.2 (by simp)

theorem joinPath_ne_nil {current : Bytes} (relative : Bytes) (nonempty : current ≠ []) :
    joinPath current relative ≠ [] := by
  unfold joinPath
  split <;> simp [nonempty]

/-! ## Paths given by names -/

theorem text_concat {path : Path} (name : Bytes) (nonempty : path ≠ []) :
    Path.text (path ++ [name]) = path.text ++ slash :: name := by
  simp [Path.text, nonempty]

theorem names_text {path : Path} (allNames : ∀ name ∈ path, IsName name) :
    names path.text = path := by
  induction path using List.reverseRecOn with
  | nil => simp [Path.text, names, namesFrom, ascii_slash]
  | append_singleton front name ih =>
      have ends : names name = [name] := names_of_isName (allNames name (by simp))
      have begins : names (Path.text front) = front :=
        ih fun other member => allNames other (by simp [member])
      by_cases empty : front = []
      · subst empty
        have text : Path.text [name] = [] ++ slash :: name := by simp [Path.text]
        rw [List.nil_append, text, names_slash, ends]
        rfl
      · rw [text_concat name empty, names_slash, begins, ends]

/-- The text of some names ends with the last of them. -/
theorem getLast?_text_concat (front : Path) {name : Bytes} (isName : IsName name) :
    (Path.text (front ++ [name])).getLast? ≠ some slash := by
  intro ends
  obtain ⟨begin, last, rfl⟩ := List.eq_nil_or_concat' name |>.resolve_left isName.1
  have text : Path.text (front ++ [begin ++ [last]]) =
      front.flatMap (fun name => slash :: name) ++ slash :: begin ++ [last] := by
    simp [Path.text]
  rw [text, List.getLast?_concat] at ends
  obtain rfl := Option.some.inj ends
  exact isName.2 (by simp)

theorem components_text {path : Path} (allNames : ∀ name ∈ path, IsName name) :
    components path.text = path := by
  rw [components, names_text allNames]
  split
  next empty => exact empty.symm
  next nonempty =>
    obtain ⟨front, last, rfl⟩ := List.eq_nil_or_concat' path |>.resolve_left nonempty
    rw [if_neg (getLast?_text_concat front (allNames last (by simp)))]

theorem head?_text (path : Path) : path.text.head? = some slash := by
  cases path with
  | nil => simp [Path.text, ascii_slash]
  | cons name rest => simp [Path.text]

theorem joinPath_text {path : Path} (allNames : ∀ name ∈ path, IsName name) (name : Bytes) :
    joinPath path.text name = Path.text (path ++ [name]) := by
  induction path using List.reverseRecOn with
  | nil => simp [Path.text, joinPath, ascii_slash]
  | append_singleton front last _ =>
      have nonempty : Path.text (front ++ [last]) ≠ [] := by simp [Path.text]
      have open_ := getLast?_text_concat front (allNames last (by simp))
      rw [joinPath, if_neg (by simp [nonempty, open_]), text_concat name (by simp)]

end PathText

end TunProxy
