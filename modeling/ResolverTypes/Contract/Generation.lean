import ResolverTypes.Contract.Assembly
import ResolverTypes.Layout.Format

/-!
# Generation

The text of the resolver types of a graph.

## Main definitions

* `generate` : the text, laid out anew if the options ask for it.
-/

namespace ResolverTypes

/-- The text of the resolver types of a graph. -/
def generate (graph : SchemaGraph) (options : Options) :
    Except GenerationError GeneratedOutput := do
  let text := (← assemble graph options).render
  return if options.format then formatModule text else { code := text }

end ResolverTypes
