import MacroTypes.Declaration
import MacroTypes.Document.Basic

/-!
# Releasing definitions

Releasing a declaration takes the class that it defined and the nested classes of that class's
present type out of the catalogue. A declaration that is about to be defined again keeps its
definition only if class, project and body stay the same.
-/

namespace MacroTypes.Document

/-- The classes that a definition stands for: the nested ones and its own. -/
def classesOf (doc : Document) (d : Definition) : List ClassName :=
  (doc.current d).nested.values ++ [(doc.current d).className]

/-- Takes what a declaration defined out of the catalogue. The generation grows even if the
declaration holds nothing. -/
def release (doc : Document) (n : NodeId) : Document :=
  { doc with
    catalog := doc.catalog.unregisterAll ((doc.held[n]?.map doc.classesOf).getD [])
    held := doc.held.erase n
    generation := doc.generation + 1 }

/-- Releases a declaration that was removed from the script and forgets the inside of its body. -/
def forget (doc : Document) (n : NodeId) : Document :=
  -- the body is that of the definition, which the release takes away
  let released := doc.release n
  match doc.held[n]?.bind Definition.body? with
  | none => released
  | some body => { released with catalog := released.catalog.removeContainer body }

/-- Whether a definition may be kept while its declaration is defined again. -/
def fits (doc : Document) (decl : Declaration) (d : Definition) : Bool :=
  -- attributes and elements may differ: they are registered over what is there
  d.type.className = decl.className doc.dialect && d.project? = decl.project? &&
    d.body? = decl.body?

/-- Releases a declaration whose definition does not fit what it says now. The result lists the
nested classes of a definition that is kept. -/
def releaseStale (doc : Document) (decl : Declaration) : List ClassName × Document :=
  match doc.held[decl.node]? with
  | none => ([], doc)
  | some d =>
    if doc.fits decl d then ((doc.current d).nested.values, doc) else ([], doc.release decl.node)

end MacroTypes.Document
