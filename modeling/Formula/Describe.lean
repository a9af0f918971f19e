import Formula.Expr
import Formula.Number.Writing
import Formula.Outline
import Formula.ParseError
import Formula.Text.Quoted

/-! Outlines of programs and of the errors met when reading them. -/

namespace Formula

namespace Expr

def nameOutline (name : String) (init : Option Outline) : Outline :=
  .record "Identifier"
    [.field "symbol" (.atom (Text.quoted name)), .field "init" (.optional init)]

def keywordOutline (keyword : String) (name : Outline) : Outline :=
  .tuple "Keyword"
    [.record "Keyword"
      [.field "symbol" (.atom (Text.quoted keyword)), .field "identifier" name]]

def outline : Expr → Outline
  | number value =>
    .tuple "NumericLiteral" [.record "NumericLiteral" [.field "value" (.atom value.write)]]
  | reference name => .tuple "Identifier" [nameOutline name none]
  | assign name init => .tuple "Identifier" [nameOutline name (some init.outline)]
  | announce keyword name => keywordOutline keyword (nameOutline name none)
  | declare keyword name init => keywordOutline keyword (nameOutline name (some init.outline))
  | binary left op right =>
    .tuple "Binary"
      [.record "BinaryExpr"
        [.field "left" left.outline, .field "operator" (.atom op.name),
          .field "right" right.outline]]

end Expr

def Program.outline (program : Program) : Outline :=
  .record "Program" [.field "body" (.list (program.body.map Expr.outline))]

def Span.outline (span : Span) : Outline :=
  .record "Span"
    [.field "start" (.tuple "BytePos" [.atom (toString span.start)]),
      .field "end" (.tuple "BytePos" [.atom (toString span.stop)]),
      .field "line" (.atom (toString span.line))]

def Token.outline (token : Token) : Outline :=
  .record "Token"
    [.field "kind" (.atom token.kind.name), .field "text" (.atom (Text.quoted token.text)),
      .field "span" token.span.outline]

/-- A parse error, shown as one of the two kinds of error a source can have. -/
def ParseError.outline (error : ParseError) : Outline :=
  .tuple "Parse"
    [.record "ParseError"
      [.field "message" (.atom (Text.quoted error.reason.message)),
        .field "found" (.optional (error.found.map Token.outline)),
        .field "expected" (.optional (error.expected.map (.atom ·.name)))]]

end Formula
