/-!
# Pattern options

How a pattern is read and matched: the options a pattern may switch on and off inside itself, and
the numbers under which a caller names them from outside.
-/

namespace EnvMarkers

/-- The options in force at some place of a pattern. -/
structure PatternOptions where
  /-- Case is disregarded. -/
  ignoreCase : Bool
  /-- `^` and `$` hold at the ends of lines, too. -/
  multiLine : Bool
  /-- `.` takes line feeds, too. -/
  dotAll : Bool
  /-- White space and comments in the pattern are ignored. -/
  verbose : Bool
  /-- Classes and case are those of all scripts, not of ASCII alone. -/
  unicode : Bool
  /-- Carriage returns end lines, too. -/
  carriageReturn : Bool
  deriving DecidableEq, Repr, Inhabited

namespace PatternOptions

/-- The number that asks for case to be disregarded. -/
def ignoreCaseBit : UInt32 := 2

/-- The number that asks for `^` and `$` to hold at the ends of lines. -/
def multiLineBit : UInt32 := 8

/-- The number that asks for `.` to take line feeds. -/
def dotAllBit : UInt32 := 16

/-- The number that asks for classes of all scripts, which are in force without it. -/
def unicodeBit : UInt32 := 32

/-- The number that asks for white space and comments to be ignored. -/
def verboseBit : UInt32 := 64

/-- The numbers of all options. -/
def supportedBits : UInt32 :=
  ignoreCaseBit ||| multiLineBit ||| dotAllBit ||| unicodeBit ||| verboseBit

/-- The part of a number that asks for no option. -/
def unsupported (bits : UInt32) : UInt32 :=
  bits &&& ~~~supportedBits

/-- The options that a number asks for. -/
def ofBits (bits : UInt32) : PatternOptions where
  ignoreCase := bits &&& ignoreCaseBit != 0
  multiLine := bits &&& multiLineBit != 0
  dotAll := bits &&& dotAllBit != 0
  verbose := bits &&& verboseBit != 0
  unicode := true
  carriageReturn := false

end PatternOptions

/-- An option as a pattern writes it. -/
inductive PatternOption where
  /-- Written `i`: case is disregarded. -/
  | ignoreCase
  /-- Written `m`: `^` and `$` hold at the ends of lines, too. -/
  | multiLine
  /-- Written `s`: `.` takes line feeds, too. -/
  | dotAll
  /-- Written `U`: repetitions prefer fewer rounds. -/
  | swapGreed
  /-- Written `u`: classes and case are those of all scripts. -/
  | unicode
  /-- Written `R`: carriage returns end lines, too. -/
  | carriageReturn
  /-- Written `x`: white space and comments are ignored. -/
  | verbose
  deriving DecidableEq, Repr, Inhabited

namespace PatternOption

/-- The option that a letter stands for. -/
def ofChar? : Char → Option PatternOption
  | 'i' => some ignoreCase
  | 'm' => some multiLine
  | 's' => some dotAll
  | 'U' => some swapGreed
  | 'u' => some unicode
  | 'R' => some carriageReturn
  | 'x' => some verbose
  | _ => none

/-- Switches an option on or off.  Which of several matches is preferred does not matter to
whether there is one. -/
def set (on : Bool) (o : PatternOptions) : PatternOption → PatternOptions
  | ignoreCase => { o with ignoreCase := on }
  | multiLine => { o with multiLine := on }
  | dotAll => { o with dotAll := on }
  | swapGreed => o
  | unicode => { o with unicode := on }
  | carriageReturn => { o with carriageReturn := on }
  | verbose => { o with verbose := on }

end PatternOption

end EnvMarkers
