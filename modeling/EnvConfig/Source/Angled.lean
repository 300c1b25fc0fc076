import EnvConfig.Source.Grammar

-- Lists in angle brackets. They are shown with the lifetimes in front of everything else.

namespace EnvConfig.Source

-- An item of such a list, with the comma behind it if there is one.
structure Angled where
  isLifetime : Bool
  tokens     : List Token

namespace Angled

def endsInComma (ts : List Token) : Bool :=
  match ts.getLast? with
  | some (.punct ',' _ _) => true
  | _                     => false

def shown (items : List Angled) : List Token :=
  items.flatMap (·.tokens)

-- A lifetime that was the last item gets a comma if other items follow it now.
def lifetimesFirst (items : List Angled) : List Token :=
  let lifetimes := shown (items.filter (·.isLifetime))
  let others := shown (items.filter (!·.isLifetime))
  if lifetimes.isEmpty || others.isEmpty || endsInComma lifetimes then lifetimes ++ others
  else lifetimes ++ Token.ofSign "," ++ others

end Angled

namespace Rule

open EnvConfig.Source.Parser

-- Reads a list and gives back the number of its items. The reader of an item tells whether it is a lifetime,
-- and `comma` reads what must stand behind an item that is not the last one.
def inAngles (comma : Parser Unit) (item : Parser Bool) : Parser Nat := do
  expect "<"
  let items ← loop (fun items => do
    if ← sees ">" then return (items, false)
    let (isLifetime, tokens) ← captured item
    if ← sees ">" then return (⟨isLifetime, tokens⟩ :: items, false)
    let (_, tokens') ← captured comma
    return (⟨isLifetime, tokens ++ tokens'⟩ :: items, true)) ([] : List Angled)
  write (Angled.lifetimesFirst items.reverse)
  expect ">"
  return items.length

end Rule
end EnvConfig.Source
