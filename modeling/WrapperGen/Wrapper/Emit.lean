import WrapperGen.Model
import WrapperGen.Unicode.Capital
import WrapperGen.Wrapper.Block

/-!
# The source of a wrapper

The wrapper of a model is a class of the same package. It holds the root of the option keys, a way
to create and load it, a member for every field and an inner class for every nested section; behind
it stand the two operators that let options be used as properties. The text depends on nothing but
the model and its fields.
-/

namespace WrapperGen.Wrapper

/-- What every wrapper imports. -/
def imports : List String := [
  "io.wispforest.owo.config.ConfigWrapper",
  "io.wispforest.owo.config.Option",
  "kotlin.reflect.KProperty"]

/-- The operators that delegate properties to options. -/
def delegates : List String := [
  "private operator fun <T> Option<T>.getValue(thisRef: Any?, property: KProperty<*>): T = this.value()",
  "private operator fun <T> Option<T>.setValue(thisRef: Any?, property: KProperty<*>, value: T): Unit = this.set(value)"]

/-- A name with its first character as a capital. -/
def capitalized (name : String) : String :=
  match name.toList with
  | [] => ""
  | c :: rest => String.ofList (Unicode.capital c ++ rest)

/-! ## Members -/

/-- The declaration of an option. -/
def optionLine (f : ValueField) : String :=
  (if f.mutable then "var " else "val ") ++ f.name ++ ": " ++ f.typeText
    ++ " by optionForKey(parentKey.child(\"" ++ f.key ++ "\"))!!"

/-- The function that subscribes to changes of an option. -/
def subscription (f : ValueField) : Block :=
  .braces
    ("fun subscribeTo" ++ capitalized f.name ++ "(subscriber: (" ++ f.typeText ++ ") -> Unit)")
    [.line
      ("optionForKey<" ++ f.typeText ++ ">(parentKey.child(\"" ++ f.key
        ++ "\"))!!.observe(subscriber)")]

/-- The declaration of a section. -/
def sectionLine (f : NestField) : String :=
  "val " ++ f.name ++ " = " ++ f.className ++ "(parentKey.child(\"" ++ f.key ++ "\"))"

/-- The source of a member. -/
def memberBlocks : ConfigField → List Block
  | .value f => .line (optionLine f) :: if f.subscribe then [.blank, subscription f] else []
  | .nest f => [.line (sectionLine f)]

/-- The source of several members, with blank lines between them. -/
def separatedMembers : List ConfigField → List Block
  | [] => []
  | [f] => memberBlocks f
  | f :: g :: fs => memberBlocks f ++ .blank :: separatedMembers (g :: fs)

/-- The inner class of a section. -/
def innerClass (c : NestedClass) : Block :=
  .braces ("inner class " ++ c.name ++ "(private val parentKey: Option.Key)")
    (separatedMembers c.fields)

/-! ## The wrapper -/

/-- The function that creates and loads a wrapper. -/
def companion (wrapper : String) : Block :=
  .braces "companion object" [
    .braces
      ("fun createAndLoad(builder: BuilderConsumer = BuilderConsumer \x7b\x7d): " ++ wrapper) [
      .braces ("return " ++ wrapper ++ "(builder).apply") [.line "load()"]]]

/-- The wrapper class. -/
def wrapperClass (m : ConfigModel) (fields : List ConfigField) (nested : NestedClassSet) : Block :=
  .braces
    ("class " ++ m.wrapperName ++ " private constructor(builder: BuilderConsumer) : ConfigWrapper<"
      ++ m.name.nested ++ ">(" ++ m.name.nested ++ "::class.java, builder)")
    ([.line "private val parentKey = Option.Key.ROOT", .blank,
      .line "constructor() : this(\x7b\x7d)", .blank,
        companion m.wrapperName]
      ++ fields.flatMap (fun f => .blank :: memberBlocks f)
      ++ nested.classes.flatMap (fun c => [.blank, innerClass c]))

/-- The pieces of the source file. -/
def file (m : ConfigModel) (fields : List ConfigField) (nested : NestedClassSet) : List Block :=
  (if m.package = "" then [] else [.line ("package " ++ m.package), .blank])
    ++ imports.map (fun name => .line ("import " ++ name))
    ++ [.blank, wrapperClass m fields nested]
    ++ delegates.flatMap (fun delegate => [.blank, .line delegate])

/-- The source of the wrapper of a model. -/
def emit (m : ConfigModel) (fields : List ConfigField) (nested : NestedClassSet) : String :=
  Block.render (file m fields nested)

end WrapperGen.Wrapper
