import EnvConfig.Layout.Printing
import EnvConfig.Module.Build
import EnvConfig.Module.Code

-- The text of a module.

namespace EnvConfig.Module

open Source Layout.Document

-- The attribute that holds a gate, as it stands in front of an item.
def gateAttribute (gate : List Token) : List Token :=
  [ .punct '#' false 0,
    .group .bracket [.ident (.plain "cfg") 0, .group .parenthesis gate 0 0] 0 0]

def readAttribute (ts : List Token) : Except SyntaxError Unit :=
  Parser.runAll (Rule.outerAttributes (.forTokens ts)) ts

def checkGate (m : Module) (gate : List Token) : Except Problem Unit :=
  match readAttribute (gateAttribute gate) with
  | .ok _    => .ok ()
  | .error e => .error (.render m.root e.message)

def checkCode (m : Module) (item : ModuleItem) : Except Problem Unit :=
  match readFile (Layout.Document.flat (itemCode m.types item)) with
  | .ok _    => .ok ()
  | .error e => .error (.render m.root e.message)

-- Code that can be read back, comments aside: the attribute in front of an item, and the item.
def checkItem (m : Module) (i : GatedItem) : Except Problem Unit := do
  i.gate.forM (checkGate m)
  checkCode m i.item

def check (m : Module) : Except Problem Unit :=
  m.items.forM (checkItem m)

def header (root : String) : String :=
  "// Code generated by envgen from " ++ inTicks root ++ "; DO NOT EDIT.\n\n"

def text (m : Module) : String :=
  header m.root ++ m.code.print

-- The module for a record, if its code is valid.
def render (project : String) (f : Flattened) (o : ModuleOptions) : Except Problem Module := do
  let m ← build project f o
  check m
  return m

end EnvConfig.Module
