import DeviceRegistry.Pattern
/-!
# Usable patterns

An expression can be used if it is not nested too deeply, and if it needs no table of
characters. Such tables say which characters are letters, digits, blanks or parts of
words, and which are the same but for their case; without them, only ASCII has those.

An expression about bytes may describe nothing that is no text. So its characters and
classes are those of ASCII, and what is outside of them is not left to a negation.
-/

namespace DeviceRegistry.Pattern

/-- The flags that decide on what is usable. -/
structure Mode where
  caseless : Bool
  unicode : Bool
deriving DecidableEq, Repr, Inhabited

namespace Mode

/-- The flags at the beginning of a pattern. -/
def initial : Mode := ⟨false, true⟩

/-- The flags after some settings. -/
def set (mode : Mode) (settings : Settings) : Mode where
  caseless := settings.value .caseless mode.caseless
  unicode := settings.value .unicode mode.unicode

def allowsInClass (mode : Mode) (literal : Literal) : Bool :=
  if mode.unicode then !mode.caseless else literal.character.toNat < 0x80

def allows (mode : Mode) (literal : Literal) : Bool :=
  if mode.unicode then !mode.caseless
  else !literal.isByte || literal.character.toNat < 0x80

/-- Whether the digits, the blanks, or the characters of words are known. -/
def allowsNamed (mode : Mode) (isNegated : Bool) : Bool :=
  !mode.unicode && !isNegated

end Mode

/-! ## Classes -/

namespace ClassContent

mutual

/-- The number of brackets, unions and operations around each other. -/
def depth : ClassContent → Nat
  | .bracketed _ content => content.depth + 1
  | .union items => greatestDepth items + 1
  | .operation left right => max left.depth right.depth + 1
  | _ => 0
termination_by structural content => content

/-- The greatest depth of some items. -/
def greatestDepth : List ClassContent → Nat
  | [] => 0
  | item :: items => max item.depth (greatestDepth items)
termination_by structural items => items

end

mutual

/-- Whether what stands between brackets can be used. -/
def isUsable (mode : Mode) : ClassContent → Bool
  | .nothing => true
  | .literal character => mode.allowsInClass character
  | .range first last => mode.allowsInClass first && mode.allowsInClass last
  | .named isNegated => mode.allowsNamed isNegated
  | .ascii isNegated => if mode.unicode then !mode.caseless else !isNegated
  | .bracketed isNegated content => (mode.unicode || !isNegated) && content.isUsable mode
  | .union items => areUsable mode items
  | .operation left right => left.isUsable mode && right.isUsable mode
termination_by structural content => content

def areUsable (mode : Mode) : List ClassContent → Bool
  | [] => true
  | item :: items => item.isUsable mode && areUsable mode items
termination_by structural items => items

end

end ClassContent

/-! ## Expressions -/

namespace Expression

mutual

/-- The number of compound expressions around each other. -/
def depth : Expression → Nat
  | .bracketed _ content => content.depth + 1
  | .repetition body => body.depth + 1
  | .group _ body => body.depth + 1
  | .alternation branches => greatestDepth branches + 1
  | .sequence parts => greatestDepth parts + 1
  | _ => 0
termination_by structural expression => expression

/-- The greatest depth of some expressions. -/
def greatestDepth : List Expression → Nat
  | [] => 0
  | part :: parts => max part.depth (greatestDepth parts)
termination_by structural parts => parts

end

mutual

/-- The flags behind an expression that can be used with the flags in front of it. -/
def modeAfter? (mode : Mode) : Expression → Option Mode
  | .nothing | .position => some mode
  | .settings changes => some (mode.set changes)
  | .literal character => if mode.allows character then some mode else none
  | .dot => if mode.unicode then some mode else none
  | .wordPosition => if mode.unicode then none else some mode
  | .named isNegated => if mode.allowsNamed isNegated then some mode else none
  | .bracketed isNegated content =>
    if (mode.unicode || !isNegated) && content.isUsable mode then some mode else none
  | .repetition body => modeAfter? mode body
  | .group changes body => (modeAfter? (mode.set changes) body).map fun _ => mode
  | .alternation branches => modeAfterAll? mode branches
  | .sequence parts => modeAfterAll? mode parts
termination_by structural expression => expression

/-- The flags behind expressions that can be used one after the other. -/
def modeAfterAll? (mode : Mode) : List Expression → Option Mode
  | [] => some mode
  | part :: parts =>
    match modeAfter? mode part with
    | some mode => modeAfterAll? mode parts
    | none => none
termination_by structural parts => parts

end

/-- The greatest depth of a usable expression. -/
def depthLimit : Nat := 250

def isUsable (expression : Expression) : Bool :=
  expression.depth ≤ depthLimit && (expression.modeAfter? .initial).isSome

end Expression

end DeviceRegistry.Pattern
