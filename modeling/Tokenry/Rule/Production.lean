import Tokenry.Rule.Context

namespace Tokenry

structure Parsed where
  value : Tree
  range : Range

abbrev Conversion := Tree → Range → Except RuleError Tree

inductive Production where
  | token (kind : Kind)
  | discard (inner : Production)
  | pair (first second : Production)
  /-- A rule. Its inner production is looked at when it is needed. -/
  | build (convert : Conversion) (inner : Unit → Production)
  | refuse (cause : RuleError)

namespace Production

def run : Production → Context → Location → Except RuleError (Option Parsed) × Context
  | .token k, cx, at_ =>
    match cx.lex k at_ with
    | (.error e, cx) => (.error e, cx)
    | (.ok none, cx) => (.ok none, cx)
    | (.ok (some t), cx) => (.ok (some ⟨.token t, t.range⟩), cx)
  | .discard inner, cx, at_ =>
    match inner.run cx at_ with
    | (.ok (some p), cx) => (.ok (some ⟨.nothing, p.range⟩), cx)
    | (.ok none, cx) => (.ok none, cx)
    | (.error e, cx) => (.error e, cx)
  | .pair first second, cx, at_ =>
    match first.run cx at_ with
    | (.ok (some left), cx) =>
      match second.run cx left.range.stop with
      | (.ok (some right), cx) =>
        (.ok (some ⟨.pair left.value right.value, left.range.join right.range⟩), cx)
      | (.ok none, cx) => (.ok none, cx)
      | (.error e, cx) => (.error e, cx)
    | (.ok none, cx) => (.ok none, cx)
    | (.error e, cx) => (.error e, cx)
  | .build convert inner, cx, at_ =>
    match (inner ()).run cx at_ with
    | (.ok (some p), cx) =>
      match convert p.value p.range with
      | .ok value => (.ok (some ⟨value, p.range⟩), cx)
      | .error e => (.error e, cx)
    | (.ok none, cx) => (.ok none, cx)
    | (.error e, cx) => (.error e, cx)
  | .refuse e, cx, _ => (.error e, cx)

def parse (p : Production) (skip : Option Kind) (src : Source) : Except ParseError Tree × Context :=
  match p.run { src, skip } 0 with
  | (.error e, cx) => (.error (.failed e), cx)
  | (.ok none, cx) => (.error cx.error, cx)
  | (.ok (some parsed), cx) =>
    match cx.lex .eof parsed.range.stop with
    | (.error e, cx) => (.error (.failed e), cx)
    | (.ok none, cx) => (.error cx.error, cx)
    | (.ok (some _), cx) => (.ok parsed.value, cx)

end Production

end Tokenry
