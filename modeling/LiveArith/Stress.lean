import LiveArith.Random
import LiveArith.Session
import LiveArith.Edit
import LiveArith.Number.Layout

/-!
Stress runs: random expressions typed one key at a time into a calculator session, each result
compared with a full evaluation on a second engine.
-/

set_option autoImplicit false

namespace LiveArith.Stress

open LiveArith.Random

/-- The settings of a run. -/
structure Settings where
  count : Int := 1000
  depth : Int := 3
  terms : Int := 5
  sessions : Int := 1
  typos : Float := 0.1
  seed : Nat := 0

def typoChars : List Char := "0123456789+-*/().".toList

def ops : List String := ["+", "-", "*", "/"]

def literal (p : Pcg) : String × Pcg :=
  let n := p.intN 200
  let v : Int := (n.1 : Int) - 99
  let third := n.2.intN 3
  if third.1 == 0 then
    let h := third.2.intN 100
    (Layout.fixed (Float.ofInt v + Float.ofNat h.1 / 100), h.2)
  else (toString v, third.2)

def joinOperands (operand : Pcg → String × Pcg) : Nat → Bool → Pcg → String × Pcg
  | 0, _, p => ("", p)
  | k + 1, first, p =>
    let sep : String × Pcg := if first then ("", p)
      else
        let o := p.intN ops.length
        (" " ++ ops.getD o.1 "+" ++ " ", o.2)
    let x := operand sep.2
    let rest := joinOperands operand k false x.2
    (sep.1 ++ x.1 ++ rest.1, rest.2)

def nested (inner : Pcg → String × Pcg) (p : Pcg) : String × Pcg :=
  let q := p.intN 4
  if q.1 == 0 then
    let e := inner q.2
    ("(" ++ e.1 ++ ")", e.2)
  else literal q.2

def expression (terms : Nat) : Nat → Pcg → String × Pcg
  | 0, p =>
    let n := p.intN terms
    joinOperands literal (n.1 + 1) true n.2
  | d + 1, p =>
    let n := p.intN terms
    joinOperands (nested (expression terms d)) (n.1 + 1) true n.2

/-- The counters a run reports, and what it logs: the engines' notes and each mismatch,
newest first. -/
structure Tally where
  keystrokes : Nat := 0
  mismatches : Nat := 0
  events : List Log.Event := []

def key (s : Session) (e : Engine) (prev next : String) (t : Tally) :
    (Except Diagnostic Value × Session × Engine) × Tally :=
  (s.update e next.toUTF8 (Edit.diff prev.toUTF8 next.toUTF8) false, { t with keystrokes := t.keystrokes + 1 })

def mistype (typos : Float) (prev : String) (s : Session) (e : Engine) (p : Pcg) (t : Tally) :
    Session × Engine × Pcg × Tally :=
  if typos > 0 then
    let r := p.float
    if r.1 < typos then
      let c := r.2.intN typoChars.length
      let typo := prev.push (typoChars.getD c.1 '0')
      let wrong := key s e prev typo t
      let back := key wrong.1.2.1 wrong.1.2.2 typo prev wrong.2
      (back.1.2.1, back.1.2.2, c.2, back.2)
    else (s, e, r.2, t)
  else (s, e, p, t)

def typePrefixes (typos : Float) (text : List Char) :
    Nat → Nat → String → Except Diagnostic Value → Session → Engine → Pcg → Tally →
      Except Diagnostic Value × Session × Engine × Pcg × Tally
  | 0, _, _, out, s, e, p, t => (out, s, e, p, t)
  | fuel + 1, i, prev, out, s, e, p, t =>
    if i > text.length then (out, s, e, p, t)
    else
      let m := mistype typos prev s e p t
      let next := String.ofList (text.take i)
      let k := key m.1 m.2.1 prev next m.2.2.2
      typePrefixes typos text fuel (i + 1) next k.1.1 k.1.2.1 k.1.2.2 m.2.2.1 k.2

def agree (got want : Except Diagnostic Value) : Bool :=
  match got, want with
  | .ok a, .ok b => a.equal b
  | .error a, .error b => a.kind == b.kind
  | _, _ => false

def outcomeText : Except Diagnostic Value → String
  | .ok v => v.text
  | .error d => d.message

def collect (t : Tally) (e : Engine) : Tally × Engine :=
  ({ t with events := e.journal ++ t.events }, { e with journal := [] })

/-- The state of one session of a run: its calculator and checking sessions, both engines,
its generator and its counters. -/
structure Run where
  session : Session
  check : Session
  engine : Engine
  reference : Engine
  rng : Pcg
  tally : Tally := {}

def one (cfg : Settings) (r : Run) : Run :=
  let terms := (max cfg.terms 1).toNat
  let (text, p) := expression terms cfg.depth.toNat r.rng
  let held := (String.fromUTF8? r.session.text).getD ""
  let ((_, s, e), t) :=
    if held.isEmpty then ((Except.ok (Value.integer 0), r.session, r.engine), r.tally)
    else key r.session r.engine held "" r.tally
  let (got, s, e, p, t) :=
    typePrefixes cfg.typos text.toList (text.length + 1) 1 "" (.ok (.integer 0)) s e p t
  let (t, e) := collect t e
  let (want, check, reference) := r.check.eval r.reference text.toUTF8 false
  let (t, reference) := collect t reference
  let t := if agree got want then t
    else { t with mismatches := t.mismatches + 1,
                  events := ⟨.warn, "stress mismatch", [.str "expr" text,
                    .str "incremental" (outcomeText got), .str "full" (outcomeText want)]⟩ ::
                    t.events }
  { session := s, check, engine := e, reference, rng := p, tally := t }

def share (count : Int) (n i : Nat) : Nat :=
  if count ≤ i then 0 else (count.toNat - i + n - 1) / n

def run (cfg : Settings) (engine reference : Engine) : Tally × Engine × Engine :=
  let n := (max cfg.sessions 1).toNat
  (List.range n).foldl (fun (acc : Tally × Engine × Engine) i =>
    let (total, engine, reference) := acc
    let (s, engine) := Session.start engine
    let (c, reference) := Session.start reference
    let start : Run := { session := s, check := c, engine, reference,
                         rng := ⟨UInt64.ofNat cfg.seed, UInt64.ofNat i⟩ }
    let r := (List.range (share cfg.count n i)).foldl (fun r _ => one cfg r) start
    ({ keystrokes := total.keystrokes + r.tally.keystrokes,
       mismatches := total.mismatches + r.tally.mismatches,
       events := r.tally.events ++ total.events }, r.engine, r.reference))
    ({}, engine, reference)

def table (header : List String) (rows : List (List String)) : String :=
  let all := header :: rows
  let widths := (List.range header.length).map fun c =>
    all.foldl (fun m r => max m ((r.getD c "").length)) 0
  let rule := fun (l m r : String) =>
    l ++ m.intercalate (widths.map fun w => String.ofList (List.replicate (w + 2) '─')) ++ r
  let row := fun (cells : List String) =>
    "│" ++ "│".intercalate ((widths.zip (List.range widths.length)).map fun (w, c) =>
      let x := cells.getD c ""
      " " ++ x ++ String.ofList (List.replicate (w - x.length) ' ') ++ " ") ++ "│"
  "\n".intercalate ([rule "┌" "┬" "┐", row header, rule "├" "┼" "┤"] ++ rows.map row ++
    [rule "└" "┴" "┘"])

end LiveArith.Stress
