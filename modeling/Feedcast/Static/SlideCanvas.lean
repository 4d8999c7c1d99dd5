/-
  Feedcast.Static.SlideCanvas — drawing a slide (`static/js/slide-canvas.js`).

  The one renderer there is: the canvas on screen and the exported image are the
  same calls.  `measureText` is the browser's, and a parameter: the width of a
  text in a font.  Coordinates are exact here.
-/
import Feedcast.Lib.Words
import Feedcast.Static.Slides

namespace Feedcast

open Feedcast.Lib

/-! ## §1. Line breaking. -/

/-- `\s`, with the line terminators. -/
def jsSpace (unit : UInt16) : Bool :=
  unit ∈ ([9, 10, 11, 12, 13, 32, 0xa0, 0x1680, 0x2000, 0x2001, 0x2002, 0x2003, 0x2004, 0x2005,
    0x2006, 0x2007, 0x2008, 0x2009, 0x200a, 0x2028, 0x2029, 0x202f, 0x205f, 0x3000, 0xfeff] :
    List UInt16)

/-- `"\n"`. -/
def newlineUnit : UInt16 := 10

/-- `" "`. -/
def spaceUnit : UInt16 := 32

/-- The loop over the words of a paragraph after the first one; `fits` compares a
width with the box. -/
def wrapWords (fits : JsStr → Bool) (line : JsStr) : List JsStr → List JsStr
  | [] => [line]
  | word :: words =>
      let candidate := line ++ spaceUnit :: word
      if fits candidate then wrapWords fits candidate words
      else line :: wrapWords fits word words

def wrapParagraph (fits : JsStr → Bool) (paragraph : JsStr) : List JsStr :=
  match words jsSpace paragraph with
  | [] => [[]]
  | word :: rest => wrapWords fits word rest

def wrap (fits : JsStr → Bool) (text : JsStr) : List JsStr :=
  (text.splitOn newlineUnit).flatMap (wrapParagraph fits)

/-! ## §2. The layout. -/

structure Font where
  size : ℚ
  weight : Nat
  line : ℚ
  deriving Repr, DecidableEq

/-- `FONTS`. -/
def fontOf : SlideKind → Font
  | .story => { size := 66, weight := 600, line := 122 / 100 }
  | .intro => { size := 86, weight := 700, line := 116 / 100 }
  | .cta => { size := 78, weight := 700, line := 118 / 100 }

def canvasWidth : ℚ := 1080

def canvasHeight : ℚ := 1350

def marginX : ℚ := 90

def bottom : ℚ := 120

def ruleW : ℚ := 96

def ruleH : ℚ := 7

def ruleGap : ℚ := 38

def creditGap : ℚ := 48

/-- The colours of the slide. -/
inductive Ink
  | white
  | ink
  | inkSoft
  | accent
  deriving Repr, DecidableEq

/-- One call on the context, with the style it is made in. -/
inductive Draw
  | fillRect (style : Ink) (x y w h : ℚ)
  | fillText (style : Ink) (weight : Nat) (size : ℚ) (text : JsStr) (x y : ℚ)
  deriving Repr, DecidableEq

/-- `for (const line of lines)`. -/
def drawLines (font : Font) (lineHeight : ℚ) : ℚ → List JsStr → List Draw
  | _, [] => []
  | y, line :: lines =>
      .fillText .ink font.weight font.size line marginX y
        :: drawLines font lineHeight (y + lineHeight) lines

/-- The top of the accent rule. -/
def ruleTop (kind : SlideKind) : ℚ :=
  let creditSpace := if kind = .story then creditGap else 0
  canvasHeight - bottom - creditSpace - ruleH

/-- What `measureText` says of the fonts of the slides. -/
abbrev Measure := Font → JsStr → ℚ

def textFits (measure : Measure) (kind : SlideKind) (text : JsStr) : Bool :=
  measure (fontOf kind) text ≤ canvasWidth - marginX * 2

/-- The lines of a slide. -/
def JsSlide.lines (measure : Measure) (slide : JsSlide) : List JsStr :=
  wrap (textFits measure slide.content.kind) slide.content.text

/-- `drawSlide`. -/
def drawSlide (measure : Measure) (slide : JsSlide) : List Draw :=
  let kind := slide.content.kind
  let font := fontOf kind
  let lines := slide.lines measure
  let lineHeight := font.size * font.line
  let y := ruleTop kind - ruleGap - (lines.length - 1) * lineHeight
  let credit :=
    match slide.sourceName with
    | some name =>
        if kind = .story ∧ name ≠ [] then
          [.fillText .inkSoft 500 30 (Utf16.encode name) marginX (canvasHeight - bottom)]
        else []
    | none => []
  .fillRect .white 0 0 canvasWidth canvasHeight
    :: drawLines font lineHeight y lines
    ++ .fillRect .accent marginX (ruleTop kind) ruleW ruleH :: credit

end Feedcast
