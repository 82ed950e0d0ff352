import MessageLint.Proofs.Files.Workspace

/-!
# MessageLint — what does not depend on the contents of files

Following paths and expanding patterns only looks at names. So nothing changes if the contents of all
files are left out (`Entry.shape`), and two workspaces that differ in the content of one file
(`Workspace.RewrittenAt`) tell every other file in the same way.

* `entry?_shape`, `expand_shape` — following a path and expanding a pattern, without contents.
* `RewrittenAt.shape_eq` — a file that is written anew leaves everything else as it is.
* `RewrittenAt.readText_eq` — the texts of the other files.
-/

namespace MessageLint.Files

/-! ## Trees without contents -/

mutual

/-- The tree with the contents of its files left out. -/
def Entry.shape : Entry → Entry
  | .file _ => .file .empty
  | .directory es => .directory (shapes es)
  | .other => .other

/-- The entries of a directory with the contents of files left out. -/
def Entry.shapes : List (String × Entry) → List (String × Entry)
  | [] => []
  | (name, e) :: rest => (name, e.shape) :: shapes rest

end

namespace Entry

variable {e e' : Entry} {name : String} {names : List String}

theorem shapes_eq (es : List (String × Entry)) : shapes es = es.map fun x => (x.1, x.2.shape) := by
  induction es with
  | nil => rfl
  | cons x es ih => rw [shapes, ih, List.map_cons]

@[simp] theorem isDirectory_shape (e : Entry) : e.shape.isDirectory = e.isDirectory := by
  cases e <;> rfl

theorem lookup_shapes (es : List (String × Entry)) (name : String) :
    (shapes es).lookup name = (es.lookup name).map shape := by
  induction es with
  | nil => rfl
  | cons x es ih =>
    rw [shapes, List.lookup_cons, List.lookup_cons, ih]
    cases name == x.1 <;> rfl

theorem child?_shape (e : Entry) (name : String) :
    e.shape.child? name = (e.child? name).map shape := by
  cases e with
  | file content => rfl
  | directory es => exact lookup_shapes es name
  | other => rfl

theorem at?_shape (e : Entry) (names : List String) :
    e.shape.at? names = (e.at? names).map shape := by
  induction names generalizing e with
  | nil => rfl
  | cons name names ih =>
    rw [at?, at?, child?_shape]
    cases e.child? name with
    | none => rfl
    | some next => exact ih next

end Entry

namespace Workspace

/-- The workspace with the contents of its files left out. -/
def shape (w : Workspace) : Workspace := { w with outermost := w.outermost.shape }

theorem followSegment_shape (w : Workspace) (location : List String) (segment : String) :
    w.shape.followSegment location segment = w.followSegment location segment := by
  unfold followSegment shape
  rw [Entry.at?_shape]
  cases w.outermost.at? location.reverse with
  | none => rfl
  | some e =>
    cases e with
    | file content => rfl
    | directory es =>
      simp only [Option.map_some, Entry.shape, Entry.lookup_shapes, Option.isSome_map]
    | other => rfl

theorem followSegments_shape (w : Workspace) (location segments : List String) :
    w.shape.followSegments location segments = w.followSegments location segments := by
  induction segments generalizing location with
  | nil => rfl
  | cons s segments ih =>
    simp only [followSegments, followSegment_shape]
    cases w.followSegment location s with
    | none => rfl
    | some next => exact ih next

theorem locate?_shape (w : Workspace) (p : Path) : w.shape.locate? p = w.locate? p := by
  simp only [locate?, followSegments_shape]
  rfl

theorem entry?_shape (w : Workspace) (p : Path) :
    w.shape.entry? p = (w.entry? p).map Entry.shape := by
  simp only [Workspace.entry?, locate?_shape]
  cases w.locate? p with
  | none => rfl
  | some names => exact Entry.at?_shape _ names

theorem pathExists_shape (w : Workspace) (p : Path) : w.shape.pathExists p = w.pathExists p := by
  simp [pathExists, entry?_shape]

theorem isDirectory_shape (w : Workspace) (p : Path) : w.shape.isDirectory p = w.isDirectory p := by
  simp only [isDirectory, entry?_shape]
  cases w.entry? p <;> simp

end Workspace

/-! ## Patterns -/

namespace Glob

mutual

theorem directoriesBelow_shape : ∀ (e : Entry) (base : Path),
    directoriesBelow base e.shape = directoriesBelow base e
  | .file _, _ => rfl
  | .directory es, base => directoriesAmong_shapes es base
  | .other, _ => rfl

theorem directoriesAmong_shapes : ∀ (es : List (String × Entry)) (base : Path),
    directoriesAmong base (Entry.shapes es) = directoriesAmong base es
  | [], _ => rfl
  | (name, e) :: rest, base => by
    rw [Entry.shapes, directoriesAmong, directoriesAmong, Entry.isDirectory_shape,
      directoriesBelow_shape e, directoriesAmong_shapes rest]

end

theorem matchingEntries_shape (w : Workspace) (c : ComponentPattern) (base : Path) :
    matchingEntries w.shape c base = matchingEntries w c base := by
  simp only [matchingEntries, Workspace.entry?_shape]
  cases w.entry? base with
  | none => rfl
  | some e =>
    cases e with
    | file content => rfl
    | directory es => simp [Entry.shape, Entry.shapes_eq, Function.comp_def]
    | other => rfl

theorem innerDirectories_shape (w : Workspace) (base : Path) :
    innerDirectories w.shape base = innerDirectories w base := by
  simp only [innerDirectories, Workspace.entry?_shape]
  cases w.entry? base with
  | none => rfl
  | some e => exact directoriesBelow_shape e base

theorem matchingAtDepth_shape (w : Workspace) (c : ComponentPattern) (base : Path) :
    matchingAtDepth w.shape c base = matchingAtDepth w c base := by
  simp only [matchingAtDepth, innerDirectories_shape, funext (matchingEntries_shape w c)]

theorem expandFrom_shape (w : Workspace) (components : List ComponentPattern) (anyDepth : Bool)
    (base : Path) : expandFrom w.shape components anyDepth base =
      expandFrom w components anyDepth base := by
  induction components generalizing anyDepth base with
  | nil => simp only [expandFrom, innerDirectories_shape]
  | cons c rest ih =>
    have hRest := funext (ih false)
    cases c with
    | plain name =>
      simp only [expandFrom, hRest, matchingAtDepth_shape, Workspace.isDirectory_shape,
        Workspace.pathExists_shape]
    | pattern tokens =>
      simp only [expandFrom, hRest, matchingAtDepth_shape, matchingEntries_shape,
        Workspace.isDirectory_shape]
    | recursive => exact ih true base

theorem expand_shape (w : Workspace) (pattern : Path) : expand w.shape pattern = expand w pattern := by
  simp only [expand, expandFrom_shape]

end Glob

/-! ## One file written anew -/

/-- The trees are the same, except that the file where the names lead has another content. -/
inductive Entry.Rewritten : List String → Entry → Entry → Prop where
  | file (old new : ByteArray) : Rewritten [] (.file old) (.file new)
  | directory {name : String} {names : List String} {e e' : Entry} {front back : List (String × Entry)}
      (first : name ∉ front.map (·.1)) (entry : Rewritten names e e') :
      Rewritten (name :: names) (.directory (front ++ (name, e) :: back))
        (.directory (front ++ (name, e') :: back))

namespace Entry.Rewritten

variable {f names : List String} {e e' : Entry}

theorem shape_eq (h : Rewritten f e e') : e'.shape = e.shape := by
  induction h with
  | file old new => rfl
  | directory _ _ ih => simp [shape, shapes_eq, ih]

/-- Another file keeps its content. -/
theorem at?_of_ne (h : Rewritten f e e') (hNames : names ≠ f) {content : ByteArray}
    (hAt : e.at? names = some (.file content)) : e'.at? names = some (.file content) := by
  induction h generalizing names with
  | file old new =>
    cases names with
    | nil => exact absurd rfl hNames
    | cons n rest => simp [at?, child?_file] at hAt
  | @directory name path e e' front back first h ih =>
    cases names with
    | nil => simp [at?] at hAt
    | cons n rest =>
      by_cases hName : n = name
      · -- the entry that has been changed: it is looked up behind the others
        subst hName
        have hFront : front.lookup n = none := by
          rw [List.lookup_eq_none_iff]
          intro x hx
          have hx : n ≠ x.1 := fun hEq => first (List.mem_map.mpr ⟨x, hx, hEq.symm⟩)
          simpa using hx
        have hRest : rest ≠ path := fun hEq => hNames (by rw [hEq])
        simp only [at?, child?, entries, List.lookup_append, hFront, List.lookup_cons_self,
          Option.none_or, Option.bind_some] at hAt ⊢
        exact ih hRest hAt
      · simpa only [at?, child?, entries, List.lookup_append, List.lookup_cons,
          beq_false_of_ne hName] using hAt

end Entry.Rewritten

/-- Two workspaces differ in nothing but the content of the file where the names lead. -/
structure Workspace.RewrittenAt (f : List String) (w w' : Workspace) : Prop where
  entries : w.outermost.Rewritten f w'.outermost
  workingDirectory : w'.workingDirectory = w.workingDirectory

namespace Workspace.RewrittenAt

variable {f : List String} {w w' : Workspace} {p : Path}

theorem shape_eq (h : w.RewrittenAt f w') : w'.shape = w.shape := by
  rw [shape, shape, h.entries.shape_eq, h.workingDirectory]

theorem locate?_eq (h : w.RewrittenAt f w') (p : Path) : w'.locate? p = w.locate? p := by
  rw [← locate?_shape w', h.shape_eq, locate?_shape]

theorem pathExists_eq (h : w.RewrittenAt f w') (p : Path) : w'.pathExists p = w.pathExists p := by
  rw [← pathExists_shape w', h.shape_eq, pathExists_shape]

/-- A path that does not lead to the file in question is read as before. -/
theorem readText_eq (h : w.RewrittenAt f w') (hp : w.locate? p ≠ some f) :
    w'.readText p = w.readText p := by
  unfold readText Workspace.entry?
  rw [h.locate?_eq]
  cases hLocate : w.locate? p with
  | none => rfl
  | some names =>
    have hNames : names ≠ f := fun hEq => hp (by rw [hLocate, hEq])
    have hShape : (w'.outermost.at? names).map Entry.shape =
        (w.outermost.at? names).map Entry.shape := by
      rw [← Entry.at?_shape, ← Entry.at?_shape, h.entries.shape_eq]
    simp only [Option.bind_some]
    -- of the same shape on both sides, and the same content if it is a file
    cases hAt : w.outermost.at? names with
    | none =>
      rw [hAt, Option.map_none, Option.map_eq_none_iff] at hShape
      rw [hShape]
    | some e =>
      cases e with
      | file content => rw [h.entries.at?_of_ne hNames hAt]
      | directory es =>
        rw [hAt] at hShape
        obtain ⟨e', hAt', hDirectory⟩ := Option.map_eq_some_iff.mp hShape
        rw [hAt']
        cases e' with
        | file content => simp [Entry.shape] at hDirectory
        | directory es' => rfl
        | other => simp [Entry.shape] at hDirectory
      | other =>
        rw [hAt] at hShape
        obtain ⟨e', hAt', hOther⟩ := Option.map_eq_some_iff.mp hShape
        rw [hAt']
        cases e' with
        | file content => simp [Entry.shape] at hOther
        | directory es' => simp [Entry.shape] at hOther
        | other => rfl

end Workspace.RewrittenAt

end MessageLint.Files
