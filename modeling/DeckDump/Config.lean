/-!
# Configuration

The four switches of a dump. They are set once, in front of the dump, and only read by it.

* `get_set`: setting one flag changes that flag alone
-/

namespace DeckDump

/-- A switch of the dump. -/
inductive Flag
  /-- Log each record header. -/
  | debug
  /-- Show the sector chains behind the header. -/
  | showSectorChain
  /-- Show no structure. -/
  | noStructOutput
  /-- Show the text found, at the end. -/
  | dumpText
deriving DecidableEq, Repr

namespace Flag

/-- All flags, in the order in which they are listed to the user. -/
def all : List Flag := [debug, showSectorChain, noStructOutput, dumpText]

/-- The long option that sets the flag, without its dashes. -/
def option : Flag → String
  | debug => "debug"
  | showSectorChain => "show-sector-chain"
  | noStructOutput => "no-struct-output"
  | dumpText => "dump-text"

/-- The flag's name inside a logged configuration. -/
def field : Flag → String
  | debug => "debug"
  | showSectorChain => "show_sector_chain"
  | noStructOutput => "no_struct_output"
  | dumpText => "dump_text"

end Flag

/-- Which flags are on; none is by default. -/
structure Config where
  debug : Bool := false
  showSectorChain : Bool := false
  noStructOutput : Bool := false
  dumpText : Bool := false
deriving DecidableEq, Repr, Inhabited

namespace Config

/-- Whether the flag is on. -/
def get (c : Config) : Flag → Bool
  | .debug => c.debug
  | .showSectorChain => c.showSectorChain
  | .noStructOutput => c.noStructOutput
  | .dumpText => c.dumpText

/-- The configuration with one flag switched on or off. -/
def set (c : Config) (flag : Flag) (on : Bool) : Config :=
  match flag with
  | .debug => { c with debug := on }
  | .showSectorChain => { c with showSectorChain := on }
  | .noStructOutput => { c with noStructOutput := on }
  | .dumpText => { c with dumpText := on }

theorem get_set (c : Config) (f g : Flag) (on : Bool) : (c.set f on).get g = if g = f then on else c.get g := by
  cases f <;> cases g <;> rfl

end Config

end DeckDump
