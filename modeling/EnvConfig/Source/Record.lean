import EnvConfig.Source.Function

-- Items that hold data: records, enumerations and unions.

namespace EnvConfig.Source.Rule

open EnvConfig.Source.Parser

-- A record without a name may stand where the type of a field without a name is expected.
def unnamedFieldType (g : Grammar) (fields : Parser Unit) : Parser TypeExpr := do
  if (← sees "struct") || (← sees "union") && (← sees2 (.group .brace)) then
    let (_, tokens) ← recorded do
      let start ← get
      discard anyIdent
      fields
      showAsWritten start
    return ⟨.other, tokens⟩
  g.type true

-- Records in records of this kind are read to the depth that is given.
def namedField (g : Grammar) : Nat → Parser FieldDecl
  | 0 => fail "nesting too deep"
  | n + 1 => do
    outerAttributes g
    discard visibility
    let unnamed ← sees "_"
    let name ← if unnamed then anyIdent else ident
    expect ":"
    let fields := discard (within .brace (separated "," (namedField g n)))
    let type ← if unnamed then unnamedFieldType g fields else g.type true
    return ⟨[name], type⟩

def namedFields (g : Grammar) : Parser (List FieldDecl) := do
  let depth := Token.weights (← ahead) + 1
  within .brace (separated "," (namedField g depth))

def positionalField (g : Grammar) : Parser Unit := do
  outerAttributes g
  discard visibility
  discard (g.type true)

def positionalFields (g : Grammar) : Parser Unit :=
  discard (within .parenthesis (separated "," (positionalField g)))

-- The fields of a record, unless they have no names.
def recordFields (g : Grammar) : Parser (Option (List FieldDecl)) := do
  let hasWhere ← sees "where"
  whereClause g
  if !hasWhere && (← sees (.group .parenthesis)) then
    positionalFields g
    let hasWhere ← sees "where"
    whereClause g
    if !(← take? ";") then failExpecting (if hasWhere then [";"] else ["where", ";"])
    return none
  if ← sees (.group .brace) then return some (← namedFields g)
  if ← take? ";" then return some []
  failExpecting (if hasWhere then [.group .brace, ";"] else ["where", .group .parenthesis,
    .group .brace, ";"])

def record (g : Grammar) : Parser Item := do
  discard visibility
  expect "struct"
  let i ← ident
  generics g
  match ← recordFields g with
  | some fields => return .record ⟨i, fields⟩
  | none        => return .other

-- All variants are as visible as their enumeration, so that nothing else is shown of that.
def variant (g : Grammar) : Parser Unit := do
  outerAttributes g
  discard (hidden visibility)
  discard ident
  if ← sees (.group .brace) then discard (namedFields g)
  else if ← sees (.group .parenthesis) then positionalFields g
  if ← take? "=" then discard (g.expr true)

def enumeration (g : Grammar) : Parser Unit := do
  discard visibility
  expect "enum"
  discard ident
  generics g
  whereClause g
  discard (within .brace (separated "," (variant g)))

def union (g : Grammar) : Parser Unit := do
  discard visibility
  expect "union"
  discard ident
  generics g
  whereClause g
  discard (namedFields g)

end EnvConfig.Source.Rule
