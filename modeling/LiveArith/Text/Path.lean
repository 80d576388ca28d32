/-!
Slash-separated file paths. A path is rooted when it starts with `/`; its elements are the texts
between slashes.
-/

set_option autoImplicit false

namespace LiveArith.Path

def splitSlash : List Char → List (List Char)
  | [] => [[]]
  | c :: cs =>
    match splitSlash cs with
    | r :: rs => if c == '/' then [] :: r :: rs else (c :: r) :: rs
    | [] => [[c]]

def elements (p : String) : List String := (splitSlash p.toList).map String.ofList

def settle (rooted : Bool) : List String → List String → List String
  | [], kept => kept
  | e :: es, kept =>
    if e.isEmpty || e == "." then settle rooted es kept
    else if e == ".." then
      match kept with
      | k :: ks => if k != ".." then settle rooted es ks else settle rooted es (e :: kept)
      | [] => if rooted then settle rooted es [] else settle rooted es [e]
    else settle rooted es (e :: kept)

def clean (p : String) : String :=
  let rooted := p.startsWith "/"
  let body := "/".intercalate (settle rooted (elements p) []).reverse
  if rooted then "/" ++ body
  else if body.isEmpty then "." else body

def join (parts : List String) : String :=
  match parts.dropWhile (·.isEmpty) with
  | [] => ""
  | rest => clean ("/".intercalate rest)

def base (p : String) : String :=
  if p.isEmpty then "."
  else
    let trimmed := (p.toList.reverse.dropWhile (· == '/')).reverse
    if trimmed.isEmpty then "/"
    else String.ofList (trimmed.reverse.takeWhile (· != '/')).reverse

def ext (p : String) : String :=
  let last := (p.toList.reverse.takeWhile (· != '/'))
  match last.findIdx? (· == '.') with
  | some i => String.ofList (last.take (i + 1)).reverse
  | none => ""

def stem (p : String) : String :=
  let b := base p
  String.ofList (b.toList.take (b.length - (ext b).length))

def absolute (cwd p : String) : String :=
  if p.startsWith "/" then clean p else join [cwd, p]

def dir (p : String) : String :=
  let cs := p.toList
  let keep := cs.length - (cs.reverse.takeWhile (· != '/')).length
  clean (String.ofList (cs.take keep))

example : base "/tmp/dir/" = "dir" := by decide
example : ext "archive.tar.gz" = ".gz" := by decide
example : ext "a.b/c" = "" := by decide

end LiveArith.Path
