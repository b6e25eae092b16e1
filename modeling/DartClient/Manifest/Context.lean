import DartClient.Naming

/-!
# Naming contexts

Where a type stands decides how a class made of it is called and whether the class stands beside
its user or is the user itself.

## Main definitions

* `ResolveContext`: the name so far, the depth, and how fields are spelled.
* `ResolveContext.item`, `ResolveContext.field`, `ResolveContext.variant`: one step down.
-/

namespace DartClient

/-- For what kind of class fields are spelled. -/
inductive FieldNaming where
  | account
  | instruction
  | type
  deriving DecidableEq, Repr

/-- The identifier of a field. All kinds of class spell their fields alike. -/
def FieldNaming.spell : FieldNaming → String → String
  | .account, name | .instruction, name | .type, name => memberName name

/-- Where a type stands. -/
structure ResolveContext where
  /-- The name of a class made of the type. -/
  parentName : Option String
  /-- How deep it is nested. -/
  depth : Nat
  /-- Whether a class made of it stands beside its user. -/
  nestedStruct : Bool
  /-- Whether its user takes its fields for itself. -/
  inline : Bool
  /-- How fields are spelled. -/
  naming : FieldNaming
  deriving DecidableEq, Repr

namespace ResolveContext

/-- The outermost context of a class. -/
def root (parentName : String) (naming : FieldNaming) : ResolveContext where
  parentName := some parentName
  depth := 0
  nestedStruct := false
  inline := false
  naming := naming

/-- The context of an item of a list, option, map or wrapper. -/
def item (ctx : ResolveContext) : ResolveContext := { ctx with depth := ctx.depth + 1 }

/-- The context of the type of a field, whose name is given as that of a class. -/
def field (ctx : ResolveContext) (name : String) : ResolveContext where
  parentName := some (ctx.parentName.getD "" ++ name)
  depth := ctx.depth + 1
  nestedStruct := true
  inline := false
  naming := ctx.naming

/-- The context of the payload of a variant of the given class. -/
def variant (ctx : ResolveContext) (name : String) : ResolveContext where
  parentName := some name
  depth := ctx.depth + 1
  nestedStruct := true
  inline := true
  naming := ctx.naming

/-- The name of a class made of the type. -/
def typeName (ctx : ResolveContext) (fallback : String) : String := ctx.parentName.getD fallback

/-- The place that messages name. -/
def location (ctx : ResolveContext) : String := ctx.parentName.getD "<anonymous>"

/-- Whether a class made of the type stands beside its user. -/
def declares (ctx : ResolveContext) : Bool := ctx.nestedStruct && !ctx.inline

end ResolveContext

end DartClient
