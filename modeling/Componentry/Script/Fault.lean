/-!
# Faults of a script

What can be wrong with a source text, as causes, and the one place that words them. A fault knows
the byte offset it is reported at.

The groups below follow the reader: faults of single tokens, of the grammar and of markup, and then
the rules that hold on top of the grammar, by what they are about.
-/

namespace Componentry.Script

/-- Why a source text is not a script module. -/
inductive Fault.Cause where
  -- single tokens
  | invalidCharacter (c : Char)
  | unexpectedEnd
  | unterminatedString
  | unterminatedComment
  | unterminatedPattern
  | patternFlag (c : Char)
  | repeatedPatternFlag (c : Char)
  | conflictingPatternFlags
  | numberTail
  | invalidEscape
  | invalidNameEscape
  | templateEscape
  | escapedKeyword
  -- the grammar
  | unexpectedToken
  | expected (wanted found : String)
  | missingSemicolon
  | missingName
  | reservedName (word : String)
  | emptyParentheses
  | lineBreakBeforeArrow
  | lineBreakAfterThrow
  | missingHandler
  | missingFunctionName
  | missingAddress
  | importArguments
  | importProperty
  | newProperty
  -- markup
  | unclosedTag (name : String)
  | strayTextMark (c : Char)
  -- words in the wrong place
  | strayReturn
  | strayAwait
  | strayYield
  | awaitAsName
  | yieldAsName
  | strayForAwait
  | asyncBeforeOf
  | misplacedModifier (word : String)
  | repeatedModifier (word : String)
  | repeatedAccess
  | lateModifier (word other : String)
  | readonlyMethod
  | parameterModifier
  | constMember
  | strayDecorator
  | decoratorsTwice
  -- targets, patterns and parameters
  | invalidTarget
  | initializedName
  | spreadNotLast
  | spreadTarget
  | restNotLast
  | restPattern
  | restDefault
  | restParameterNotLast
  | commaAfterRest
  | getterParameters
  | setterParameters
  | setterRest
  -- declarations
  | missingConstValue
  | missingPatternValue
  | usingPattern
  | usingWithoutValue
  | usingLineBreak
  | usingAwait
  | usingInForIn
  | awaitUsingInForIn
  | lexicalDeclarationAsBody
  | classAsBody
  | generatorAsBody
  | asyncFunctionAsBody
  -- classes
  | repeatedExtends
  | lateExtends
  | severalParents
  | repeatedImplements
  | constructorAccessor
  | constructorGenerator
  | constructorAsync
  | constructorField
  | constructorPrivate
  | staticPrototype
  | optionalDefinite
  -- operators
  | mixedCoalescing
  | signedPower (operator : String)
  | awaitedPower
  | nestedPrivateIn
  | newImport
  | newChain
  | taggedChain
  | looseSuper
  | typeAssertion
  | typeSatisfaction
  -- imports and exports
  | repeatedKey (name : String)
  | exportedWord
  | exportedString
  | exportedHalf
  | repeatedExport (name : String)
  | repeatedDefault
  | typedDialect
deriving DecidableEq, Repr

namespace Fault.Cause

/-- The wording of a cause. -/
def message : Fault.Cause → String
  | invalidCharacter c => "Invalid Character `" ++ c.toString ++ "`"
  | unexpectedEnd => "Unexpected end of file"
  | unterminatedString => "Unterminated string"
  | unterminatedComment => "Unterminated multiline comment"
  | unterminatedPattern => "Unterminated regular expression"
  | patternFlag c => "Unexpected flag " ++ c.toString ++ " in regular expression literal"
  | repeatedPatternFlag c =>
    "Flag " ++ c.toString ++ " is mentioned twice in regular expression literal"
  | conflictingPatternFlags =>
    "The 'u' and 'v' regular expression flags cannot be enabled at the same time"
  | numberTail => "Invalid characters after number"
  | invalidEscape => "Invalid escape sequence"
  | invalidNameEscape => "Invalid Unicode escape sequence"
  | templateEscape => "Bad escape sequence in untagged template literal"
  | escapedKeyword => "Keywords cannot contain escape characters"
  | unexpectedToken => "Unexpected token"
  | expected wanted found => "Expected `" ++ wanted ++ "` but found `" ++ found ++ "`"
  | missingSemicolon =>
    "Expected a semicolon or an implicit semicolon after a statement, but found none"
  | missingName => "Identifier expected."
  | reservedName word =>
    "Identifier expected. '" ++ word ++ "' is a reserved word that cannot be used here."
  | emptyParentheses => "Empty parenthesized expression"
  | lineBreakBeforeArrow => "Line terminator not permitted before arrow"
  | lineBreakAfterThrow => "Illegal newline after throw"
  | missingHandler => "Missing catch or finally clause"
  | missingFunctionName => "Expected function name"
  | missingAddress => "import() requires a specifier."
  | importArguments =>
    "Dynamic imports can only accept a module specifier and an optional set of attributes as "
      ++ "arguments"
  | importProperty => "The only valid meta property for import is import.meta"
  | newProperty => "The only valid meta property for new is new.target"
  | unclosedTag name => "Expected corresponding JSX closing tag for '" ++ name ++ "'."
  | strayTextMark c =>
    "Unexpected token. Did you mean `\x7b'" ++ c.toString ++ "'\x7d` or `&"
      ++ (if c = '>' then "gt" else "rbrace") ++ ";`?"
  | strayReturn => "A 'return' statement can only be used within a function body."
  | strayAwait =>
    "`await` is only allowed within async functions and at the top levels of modules"
  | strayYield => "A 'yield' expression is only allowed in a generator body."
  | awaitAsName => "Cannot use `await` as an identifier in an async context"
  | yieldAsName => "Cannot use `yield` as an identifier in a generator context"
  | strayForAwait => "await can only be used in conjunction with `for...of` statements"
  | asyncBeforeOf => "The left-hand side of a `for...of` statement may not be `async`"
  | misplacedModifier word => "'" ++ word ++ "' modifier cannot be used here."
  | repeatedModifier word => "'" ++ word ++ "' modifier already seen."
  | repeatedAccess => "Accessibility modifier already seen."
  | lateModifier word other => "'" ++ word ++ "' modifier must precede '" ++ other ++ "' modifier."
  | readonlyMethod =>
    "'readonly' modifier can only appear on a property declaration or index signature."
  | parameterModifier => "Parameter modifiers can only be used in TypeScript files."
  | constMember => "A class member cannot have the 'const' keyword."
  | strayDecorator => "Decorators are not valid here."
  | decoratorsTwice =>
    "Decorators may not appear after 'export' or 'export default' if they also appear before "
      ++ "'export'."
  | invalidTarget => "Cannot assign to this expression"
  | initializedName => "Invalid assignment in object literal"
  | spreadNotLast => "Spread must be last element"
  | spreadTarget => "Invalid rest operator's argument."
  | restNotLast => "A rest element must be last in a destructuring pattern"
  | restPattern => "Invalid rest element"
  | restDefault => "A rest element cannot have an initializer."
  | restParameterNotLast => "A rest parameter must be last in a parameter list"
  | commaAfterRest => "A rest parameter or binding pattern may not have a trailing comma."
  | getterParameters => "A 'get' accessor must not have any formal parameters."
  | setterParameters => "A 'set' accessor must have exactly one parameter."
  | setterRest => "A 'set' accessor cannot have rest parameter."
  | missingConstValue => "Missing initializer in const declaration"
  | missingPatternValue => "Missing initializer in destructuring declaration"
  | usingPattern => "Using declarations may not have destructuring patterns."
  | usingWithoutValue => "Using declarations must have an initializer."
  | usingLineBreak => "Line terminator not permitted before using declaration"
  | usingAwait => "`await` is not allowed in using declarations"
  | usingInForIn =>
    "The left-hand side of a 'for...in' statement cannot be a 'using' declaration."
  | awaitUsingInForIn =>
    "The left-hand side of a 'for...in' statement cannot be an 'await using' declaration."
  | lexicalDeclarationAsBody =>
    "Lexical declaration cannot appear in a single-statement context"
  | classAsBody => "Invalid class declaration"
  | generatorAsBody => "Generators can only be declared at the top level or inside a block"
  | asyncFunctionAsBody =>
    "Async functions can only be declared at the top level or inside a block"
  | repeatedExtends => "'extends' clause already seen."
  | lateExtends => "'extends' clause must precede 'implements' clause."
  | severalParents => "Classes can only extend a single class."
  | repeatedImplements => "'implements' clause already seen."
  | constructorAccessor => "Constructor can't have get/set modifier"
  | constructorGenerator => "Constructor can't be a generator"
  | constructorAsync => "Constructor can't be an async method"
  | constructorField => "Classes can't have a field named 'constructor'"
  | constructorPrivate => "Classes can't have an element named '#constructor'"
  | staticPrototype => "Classes may not have a static property named prototype"
  | optionalDefinite => "A property cannot be both optional and definite."
  | mixedCoalescing => "Logical expressions and coalesce expressions cannot be mixed"
  | signedPower operator =>
    "An unary expression with the '" ++ operator
      ++ "' operator is not allowed in the left-hand side of an exponentiation expression."
  | awaitedPower => "Unexpected exponentiation expression"
  | nestedPrivateIn => "Unexpected right-hand side of private-in expression"
  | newImport => "Cannot use new with dynamic import"
  | newChain => "Invalid optional chain from new expression."
  | taggedChain => "Tagged template expressions are not permitted in an optional chain"
  | looseSuper => "'super' can only be used with function calls or in property accesses"
  | typeAssertion => "Type assertion expressions can only be used in TypeScript files."
  | typeSatisfaction => "Type satisfaction expressions can only be used in TypeScript files."
  | repeatedKey name => "Identifier `" ++ name ++ "` has already been declared"
  | exportedWord => "A reserved word cannot be used as an exported binding without `from`"
  | exportedString => "A string literal cannot be used as an exported binding without `from`"
  | exportedHalf => "An export name cannot include a unicode lone surrogate"
  | repeatedExport name => "Duplicated export '" ++ name ++ "'"
  | repeatedDefault => "Duplicated default export"
  | typedDialect => "Flow is not supported"

end Fault.Cause

/-- A cause and the byte offset it is reported at. -/
structure Fault where
  cause : Fault.Cause
  offset : Nat
deriving DecidableEq, Repr

end Componentry.Script
