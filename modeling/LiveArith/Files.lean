import LiveArith.Text.Path

/-!
A small tree of files held in memory: each cleaned path names a directory, a file with its text, or
a symbolic link with its target.
-/

set_option autoImplicit false

namespace LiveArith

/-- What a path names. -/
inductive PathNode where
  | dir
  | file (text : String)
  | link (target : String)
deriving Repr, BEq, Inhabited

/-- Why an operation on a path failed. -/
inductive Reason where
  | notExist
  | isDirectory
  | notDirectory
  | tooManyLinks
  | linkLimit
deriving Repr, BEq, DecidableEq, Inhabited

def Reason.text : Reason → String
  | .notExist => "no such file or directory"
  | .isDirectory => "is a directory"
  | .notDirectory => "not a directory"
  | .tooManyLinks => "too many levels of symbolic links"
  | .linkLimit => "EvalSymlinks: too many links"

/-- A failed operation on a path; a failure with no operation is reported by its reason
alone. -/
structure PathError where
  op : String
  path : String
  reason : Reason
deriving Repr, BEq, Inhabited

def PathError.message (e : PathError) : String :=
  if e.op.isEmpty then e.reason.text else e.op ++ " " ++ e.path ++ ": " ++ e.reason.text

/-- Why walking a path's links failed: an element that is not there, a file with more of the
path after it, or too many links. -/
inductive WalkError where
  | missing (dest : String)
  | notDirectory
  | loop
deriving Repr, BEq, Inhabited

/-- A tree of files, keyed by cleaned paths. -/
structure Files where
  nodes : List (String × PathNode) := []
deriving Inhabited

namespace Files

def node? (fs : Files) (p : String) : Option PathNode := fs.nodes.lookup (Path.clean p)

def set (fs : Files) (p : String) (n : PathNode) : Files :=
  let key := Path.clean p
  { nodes := (fs.nodes.filter (·.1 != key)) ++ [(key, n)] }

def ancestry (p : String) : List String :=
  let parts := (Path.elements (Path.clean p)).filter (!·.isEmpty)
  let rooted := p.startsWith "/"
  (List.range parts.length).map fun i =>
    (if rooted then "/" else "") ++ "/".intercalate (parts.take (i + 1))

def mkdirAll (fs : Files) (p : String) : Files :=
  (ancestry p).foldl (fun fs d => if (fs.node? d).isSome then fs else fs.set d .dir) fs

def put (fs : Files) (p text : String) : Files :=
  (fs.mkdirAll (Path.dir p)).set p (.file text)

def putLink (fs : Files) (p target : String) : Files :=
  (fs.mkdirAll (Path.dir p)).set p (.link target)

def remove (fs : Files) (p : String) : Files :=
  let key := Path.clean p
  { nodes := fs.nodes.filter fun (k, _) => k != key && !(key ++ "/").isPrefixOf k }

def linkBase (dest : String) : String :=
  let cs := dest.toList
  let lastLen := (cs.reverse.takeWhile (· != '/')).length
  if lastLen == cs.length then ""
  else if String.ofList (cs.drop (cs.length - lastLen)) == ".." then ""
  else String.ofList (cs.take (cs.length - lastLen - 1))

def walk (fs : Files) (create : Bool) : Nat → String → List String → Except WalkError String
  | _, dest, [] => .ok (Path.clean dest)
  | hops, dest, e :: es =>
    if e.isEmpty || e == "." then walk fs create hops dest es
    else if e == ".." then walk fs create hops (Path.join [dest, ".."]) es
    else
      let dest := if dest.isEmpty then e else if dest == "/" then "/" ++ e else dest ++ "/" ++ e
      match fs.node? dest with
      | none => if create && es.isEmpty then .ok (Path.clean dest) else .error (.missing dest)
      | some .dir => walk fs create hops dest es
      | some (.file _) => if es.isEmpty then walk fs create hops dest es else .error .notDirectory
      | some (.link target) =>
        match hops with
        | 0 => .error .loop
        | h + 1 =>
          let more := Path.elements target ++ es
          if target.startsWith "/" then walk fs create h "/" more
          else walk fs create h (linkBase dest) more

def resolve (fs : Files) (p : String) : Except WalkError String :=
  walk fs false 255 (if p.startsWith "/" then "/" else "") (Path.elements p)

def target (fs : Files) (p : String) : Except WalkError String :=
  walk fs true 255 (if p.startsWith "/" then "/" else "") (Path.elements p)

def WalkError.on (op p : String) : WalkError → PathError
  | .missing _ => ⟨op, p, .notExist⟩
  | .notDirectory => ⟨op, p, .notDirectory⟩
  | .loop => ⟨op, p, .tooManyLinks⟩

def evalLinks (fs : Files) (p : String) : Except PathError String :=
  (fs.resolve p).mapError fun
    | .missing dest => ⟨"lstat", dest, .notExist⟩
    | .notDirectory => ⟨"", "", .notDirectory⟩
    | .loop => ⟨"", "", .linkLimit⟩

def stat (fs : Files) (op p : String) : Except PathError PathNode := do
  let r ← (fs.resolve p).mapError (WalkError.on op p)
  match fs.node? r with
  | some n => .ok n
  | none => .error ⟨op, p, .notExist⟩

def read (fs : Files) (p : String) : Except PathError String :=
  match fs.stat "open" p with
  | .error e => .error e
  | .ok (.file t) => .ok t
  | .ok _ => .error ⟨"read", p, .isDirectory⟩

def write (fs : Files) (p text : String) (append : Bool) : Except PathError Files :=
  match fs.stat "open" p with
  | .ok .dir => .error ⟨"open", p, .isDirectory⟩
  | .ok (.file old) =>
    match fs.resolve p with
    | .ok r => .ok (fs.set r (.file (if append then old ++ text else text)))
    | .error e => .error (WalkError.on "open" p e)
  | .ok (.link _) => .error ⟨"open", p, .tooManyLinks⟩
  | .error _ =>
    match fs.target p with
    | .ok r => .ok (fs.set r (.file text))
    | .error e => .error (WalkError.on "open" p e)

end Files

end LiveArith
