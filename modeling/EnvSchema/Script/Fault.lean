import EnvSchema.Script.Span

/-!
# What can be wrong with a script

Every way in which reading a script can fail, as a value, and the sentence that reports it.

* `Fault` — the causes; where the sentence names something, the cause carries it;
* `Fault.message` — the sentence of a cause;
* `Diagnostic` — a cause together with the stretch of text it is about.
-/

namespace EnvSchema.Script

/-- **Why a script cannot be read.** -/
inductive Fault where
  -- the text ends or goes on where it should not
  | endOfInput
  | expected (wanted got : String)
  | unexpected (got wanted : String)
  | unexpectedChar (shown : String)
  | suggestion (first second : String)
  | expressionExpected
  | identExpected
  | typeNameExpected
  | semicolonExpected
  | statementEndExpected
  -- words and literals
  | invalidIdentChar
  | spaceAfterHash
  | unicodeEscapeExpected
  | reservedWordEscape (word : String)
  | unterminatedBlockComment
  | unterminatedString
  | unterminatedTemplate
  | unterminatedRegexp
  | unterminatedElementText
  | unknownRegexpFlags
  | duplicateRegexpFlag (flag : Char)
  | invalidStringEscape
  | invalidUnicodeEscape
  | badCharacterEscape (wanted : String)
  | identAfterNumber
  | digitExpected (radix : Nat)
  | exponentDigitExpected
  | misplacedSeparator
  | legacyOctal
  | legacyOctalWithTypes
  | legacyDecimal
  | legacyComment
  | mergeMarker
  -- names
  | strictIdent (name : String)
  | asyncIdent
  | evalOrArguments
  | evalOrArgumentsTarget
  | argumentsInField
  | deleteIdent
  | deleteOperand
  | duplicateLabel (name : String)
  -- expressions
  | arrowNotAllowed
  | lineBreakBeforeArrow
  | emptyParentheses
  | spreadInParentheses
  | notAPattern
  | invalidAssignTarget
  | notSimpleTarget
  | targetNotAssignable
  | assignProperty
  | unaryBeforePower
  | mixedNullish
  | newTargetOutside
  | newAfterOptionalChain
  | templateInOptionalChain
  | superCallInvalid
  | superInvalid
  | superOptional
  | importInvalid
  | importTrailingComma
  | nonNullNotAllowed (what : String)
  | awaitStar
  | awaitInFunction
  | awaitInParameters
  | yieldInParameters
  -- bindings
  | patternNeedsInit
  | constNeedsInit
  | emptyDeclaration
  | restNotLast
  | restParameterNotLast
  | commaAfterRest
  | restNeedsIdent
  | optionalRest
  | restInit
  | optionalWithInit
  | optionalPattern
  | annotationAfterInit
  | strictDirectiveWithPatterns
  -- functions, accessors and classes
  | getterParameters
  | setterParameters
  | restInSetter
  | readonlyMethod
  | readonlyAccessor
  | generatorConstructor
  | asyncConstructor
  | constructorAccessor
  | constructorField
  | privateConstructor
  | privateModifier (modifier : String)
  | privateAccessibility
  | duplicateConstructor
  | invalidClassName
  | extendsSeen
  | implementsSeen
  | severalSuperclasses
  | modifierSeen (modifier : String)
  | modifierOrder (first second : String)
  | modifierPair (first second : String)
  | modifierMisplaced
  | modifierOnConstructor (modifier : String)
  | typeParametersOnConstructor
  | typeAnnotationOnConstructor
  | emptyTypeParameters
  | emptyTypeArguments
  | setterParameterRequired
  | modifierOnTypeParameter (modifier : String)
  | declareOnMember
  | modifierOnDeclare
  | asyncModifier
  | abstractOutside
  | abstractMisplaced
  | abstractBody
  | abstractInit
  | overrideWithoutSuper
  | parameterProperty
  | parameterPropertyPattern
  | parameterInit
  | optionalMember
  -- statements
  | declarationNotAllowed
  | returnNotAllowed
  | breakOutside
  | breakLabel
  | continueOutside
  | continueLabel
  | throwLineBreak
  | severalDefaults
  | trailingComma
  | forHeadInit
  | forOfAsync
  | forInPattern
  | forHeadTyped
  | forHeadSeveral
  | awaitForHead
  | withInStrict
  | withUnsupported
  | labelledFunction
  | usingPattern
  | usingNeedsInit
  | usingInForIn
  -- modules
  | misplacedImportExport
  | stringBinding (value : String)
  | exportNeedsFrom (name : String)
  | exportString
  | typeOnImportName
  | typeOnExportName
  -- types
  | bodyInAmbient
  | enumNumericName
  | enumComputedName
  | commaInComputedName
  | requiredAfterOptional
  | interfaceName
  | heritageName
  | indexParameters
  | varianceMisplaced (modifier : String)
  | constTypeParameter
  | privateInInterface
  | stringExpected
  -- elements
  | elementValue
  | emptyAttribute
  | closingTag (tag : String)
  | closingFragment
  -- the reader gave up
  | tooDeep
  deriving Repr, DecidableEq, Inhabited

namespace Fault

/-- **The sentence that reports a cause.** -/
def message : Fault → String
  | endOfInput => "Unexpected eof"
  | expected wanted got => "Expected '" ++ wanted ++ "', got '" ++ got ++ "'"
  | unexpected got wanted => "Unexpected token `" ++ got ++ "`. Expected " ++ wanted
  | unexpectedChar shown => "Unexpected character " ++ shown
  | suggestion first second =>
    "Unexpected token. Did you mean " ++ first ++ " or " ++ second ++ "?"
  | expressionExpected => "Expression expected"
  | identExpected => "Expected ident"
  | typeNameExpected => "Expected an identifier"
  | semicolonExpected => "Expected a semicolon"
  | statementEndExpected => "Expected ';', '\x7d' or <eof>"
  | invalidIdentChar => "Invalid character in identifier"
  | spaceAfterHash => "Unexpected space between # and identifier"
  | unicodeEscapeExpected => "Expected unicode escape"
  | reservedWordEscape word => "Unexpected escape sequence in reserved word: " ++ word
  | unterminatedBlockComment => "Unterminated block comment"
  | unterminatedString => "Unterminated string constant"
  | unterminatedTemplate => "Unterminated template"
  | unterminatedRegexp => "Unterminated regexp literal"
  | unterminatedElementText => "Unterminated JSX contents"
  | unknownRegexpFlags => "Unknown regular expression flags."
  | duplicateRegexpFlag flag => "Duplicated regular expression flag '" ++ flag.toString ++ "'."
  | invalidStringEscape => "Invalid string escape"
  | invalidUnicodeEscape => "Invalid unicode escape"
  | badCharacterEscape wanted => "Bad character escape sequence, expected " ++ wanted
  | identAfterNumber => "Identifier cannot follow number"
  | digitExpected radix =>
    let kind := match radix with
      | 2 => "a binary"
      | 8 => "an octal"
      | 10 => "a decimal"
      | _ => "a hexadecimal"
    "Expected " ++ kind ++ " digit"
  | exponentDigitExpected => "Expected +, - or decimal digit after e"
  | misplacedSeparator => "A numeric separator is only allowed between two digits"
  | legacyOctal => "Legacy octal escape is not permitted in strict mode"
  | legacyOctalWithTypes =>
    "Legacy octal literals are not available when targeting ECMAScript 5 and higher"
  | legacyDecimal => "Legacy decimal escape is not permitted in strict mode"
  | legacyComment => "Legacy comments cannot be used in module code"
  | mergeMarker => "Merge conflict marker encountered."
  | strictIdent name => "`" ++ name ++ "` cannot be used as an identifier in strict mode"
  | asyncIdent => "`await` cannot be used as an identifier in an async context"
  | evalOrArguments =>
    "'eval' and 'arguments' cannot be used as a binding identifier in strict mode"
  | evalOrArgumentsTarget => "Invalid use of 'arguments' in strict mode"
  | argumentsInField => "'arguments' is only allowed in functions and class methods"
  | deleteIdent => "'delete' cannot be called on an identifier in strict mode"
  | deleteOperand => "The operand of a 'delete' operator must be a property reference."
  | duplicateLabel name => "Label " ++ name ++ " is already declared"
  | arrowNotAllowed => "An arrow function is not allowed here"
  | lineBreakBeforeArrow => "Unexpected line break between arrow head and arrow"
  | emptyParentheses => "Parenthesized expression cannot be empty"
  | spreadInParentheses => "Parenthesized expression cannot contain spread operator"
  | notAPattern => "Not a pattern"
  | invalidAssignTarget => "Invalid assignment target"
  | notSimpleTarget => "Cannot assign to this"
  | targetNotAssignable =>
    "The left-hand side of an assignment expression must be a variable or a property access."
  | assignProperty => "assignment property is invalid syntax"
  | unaryBeforePower => "** cannot be applied to unary expression"
  | mixedNullish =>
    "Nullish coalescing operator(??) requires parens when mixing with logical operators"
  | newTargetOutside =>
    "'new.target' is only allowed in the body of a function declaration, function expression, " ++
      "or class."
  | newAfterOptionalChain => "Constructor in/after an optional chaining is not allowed."
  | templateInOptionalChain => "Tagged template literal is not allowed in optional chain"
  | superCallInvalid => "Invalid `super()`"
  | superInvalid => "Invalid access to super"
  | superOptional => "Super call cannot be optional"
  | importInvalid => "Import is not allowed here"
  | importTrailingComma => "Trailing comma is disallowed inside import(...) arguments"
  | nonNullNotAllowed what =>
    "Typescript non-null assertion operator is not allowed with '" ++ what ++ "'"
  | awaitStar =>
    "await* has been removed from the async functions proposal. Use Promise.all() instead."
  | awaitInFunction => "await isn't allowed in non-async function"
  | awaitInParameters => "`await` expressions cannot be used in a parameter initializer."
  | yieldInParameters => "'yield' cannot be used as a parameter within generator"
  | patternNeedsInit => "Destructuring bindings require initializers"
  | constNeedsInit => "'const' declarations must be initialized"
  | emptyDeclaration => "Variable declaration list cannot be empty"
  | restNotLast => "Rest element must be final element"
  | restParameterNotLast => "A rest parameter must be last in a parameter list"
  | commaAfterRest => "Trailing comma isn't permitted after a rest element"
  | restNeedsIdent => "`...` must be followed by an identifier in declaration contexts"
  | optionalRest => "A rest parameter cannot be optional"
  | restInit => "A rest parameter cannot have an initializer"
  | optionalWithInit => "Parameter cannot have question mark and initializer"
  | optionalPattern =>
    "A binding pattern parameter cannot be optional in an implementation signature."
  | annotationAfterInit => "Type annotations must come before default assignments"
  | strictDirectiveWithPatterns =>
    "Illegal 'use strict' directive in function with non-simple parameter list."
  | getterParameters => "A `get` accessor cannot have parameters"
  | setterParameters => "A `set` accessor must have exactly one parameter"
  | restInSetter => "Rest pattern is not allowed in setter"
  | readonlyMethod => "A method cannot be readonly"
  | readonlyAccessor => "A getter or a setter cannot be readonly"
  | generatorConstructor => "A constructor cannot be generator"
  | asyncConstructor => "A constructor cannot be async"
  | constructorAccessor => "Class constructor can't be an accessor."
  | constructorField => "Classes may not have a non-static field named 'constructor'"
  | privateConstructor => "Classes can't have a private field named '#constructor'."
  | privateModifier modifier =>
    "'" ++ modifier ++ "' modifier cannot be used with a private identifier"
  | privateAccessibility => "An accessibility modifier cannot be used with a private identifier."
  | duplicateConstructor => "A class can only have one constructor"
  | invalidClassName => "Invalid class name"
  | extendsSeen => "'extends' clause already seen."
  | implementsSeen => "'implements' clause already seen."
  | severalSuperclasses => "Classes can only extend a single class."
  | modifierSeen modifier => "'" ++ modifier ++ "' modifier already seen."
  | modifierOrder first second =>
    "'" ++ first ++ "' modifier must precede '" ++ second ++ "' modifier."
  | modifierPair first second =>
    "'" ++ first ++ "' modifier cannot be used with '" ++ second ++ "' modifier."
  | modifierMisplaced => "Modifiers cannot appear here"
  | modifierOnConstructor modifier =>
    "'" ++ modifier ++ "' modifier cannot appear on a constructor declaration"
  | typeParametersOnConstructor => "Type parameters cannot appear on a constructor declaration"
  | typeAnnotationOnConstructor => "Type annotation cannot appear on a constructor declaration"
  | emptyTypeParameters => "Type parameter list cannot be empty"
  | emptyTypeArguments => "Type argument list cannot be empty."
  | setterParameterRequired => "A 'set' accessor must have exactly one parameter"
  | modifierOnTypeParameter modifier =>
    "'" ++ modifier ++ "' modifier cannot appear on a type parameter"
  | declareOnMember => "'declare' modifier cannot appear on class elements of this kind"
  | modifierOnDeclare => "A 'declare' modifier cannot be used in an already ambient context"
  | asyncModifier => "'async' modifier cannot be used here"
  | abstractOutside => "Abstract methods can only appear within an abstract class."
  | abstractMisplaced =>
    "'abstract' modifier can only appear on a class, method, or property declaration"
  | abstractBody => "Abstract method cannot have an implementation."
  | abstractInit => "Abstract property cannot have an initializer."
  | overrideWithoutSuper =>
    "This member cannot have an 'override' modifier because its containing class does not extend " ++
      "another class."
  | parameterProperty =>
    "A parameter property is only allowed in a constructor implementation"
  | parameterPropertyPattern =>
    "Typescript parameter property must be an identifier or assignment pattern"
  | parameterInit =>
    "A parameter initializer is only allowed in a function or constructor implementation"
  | optionalMember => "An object member cannot be declared optional"
  | declarationNotAllowed => "Declaration is not allowed"
  | returnNotAllowed => "Return statement is not allowed here"
  | breakOutside =>
    "A 'break' statement can only be used within an enclosing iteration or switch statement"
  | breakLabel => "A 'break' statement can only jump to a label of an enclosing statement"
  | continueOutside =>
    "A 'continue' statement can only jump to a label of an enclosing iteration statement"
  | continueLabel => "Jump target cannot cross function boundary"
  | throwLineBreak => "LineBreak cannot follow 'throw'"
  | severalDefaults => "A switch block cannot have multiple defaults"
  | trailingComma => "Trailing comma is not allowed"
  | forHeadInit => "Unexpected initializer in for in/of loop"
  | forOfAsync => "The left-hand side of a 'for...of' statement may not be 'async'."
  | forInPattern =>
    "The left-hand side of a 'for...in' statement cannot be a destructuring pattern"
  | forHeadTyped => "The left-hand side of a 'for...of' statement cannot use a type annotation"
  | forHeadSeveral => "Only a single variable declaration is allowed in a 'for...of' statement."
  | awaitForHead => "for await syntax is valid only for for-of statement"
  | withInStrict => "With statement are not allowed in strict mode"
  | withUnsupported =>
    "The 'with' statement is not supported. All symbols in a 'with' block will have type 'any'."
  | labelledFunction => "Function cannot be labelled in strict mode"
  | usingPattern => "Using declaration only allows identifiers"
  | usingNeedsInit => "Using declaration requires initializer"
  | usingInForIn => "Using declaration is not allowed in for-in loop"
  | misplacedImportExport => "'import', and 'export' cannot be used outside of module code"
  | stringBinding value =>
    "A string literal cannot be used as an imported binding.\n- Did you mean `import \x7b \"" ++
      value ++ "\" as foo \x7d`?"
  | exportNeedsFrom name => "`" ++ name ++ "` cannot be used without `from` clause"
  | exportString =>
    "A string literal cannot be used as an exported binding without `from`."
  | typeOnImportName =>
    "The 'type' modifier cannot be used on a named import when 'import type' is used on its import " ++
      "statement."
  | typeOnExportName =>
    "The 'type' modifier cannot be used on a named export when 'export type' is used on its export " ++
      "statement."
  | bodyInAmbient => "An implementation cannot be declared in ambient contexts"
  | enumNumericName => "An enum member cannot have a numeric name"
  | enumComputedName => "Computed property names are not allowed in enums"
  | commaInComputedName => "A comma expression is not allowed in a computed property name"
  | requiredAfterOptional => "A required element cannot follow an optional element."
  | interfaceName => "Interface name is invalid"
  | heritageName =>
    "An interface can only extend an identifier/qualified-name with optional type arguments."
  | indexParameters => "An index signature must have exactly one parameter"
  | varianceMisplaced modifier =>
    "'" ++ modifier ++ "' modifier can only appear on a type parameter of a class, interface or " ++
      "type alias"
  | constTypeParameter =>
    "'const' modifier can only appear on a type parameter of a function, method or class"
  | privateInInterface => "private names are not allowed in interface"
  | stringExpected => "String literal expected"
  | elementValue => "JSX value should be either an expression or a quoted JSX text"
  | emptyAttribute => "JSX attributes must only be assigned a non-empty expression"
  | closingTag tag => "Expected corresponding JSX closing tag for <" ++ tag ++ ">"
  | closingFragment => "Expected corresponding closing tag for JSX fragment"
  | tooDeep => "Nesting is too deep"

end Fault

/-- **A cause and the stretch of text it is about.** -/
structure Diagnostic where
  /-- Where. -/
  span : Span
  /-- What. -/
  fault : Fault
  deriving Repr, DecidableEq, Inhabited

end EnvSchema.Script
