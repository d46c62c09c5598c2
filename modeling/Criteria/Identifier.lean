import Criteria.BuildError

namespace Criteria

/-- A name that needs no quotes: ASCII letters, digits and underscores, or nothing at all. -/
def isSafeName (name : String) : Bool :=
  name.toList.all fun c => c.isAlphanum || c = '_'

/-- Refuses a name that would need quotes where it is used as `role`. -/
def checkName (role name : String) : Except BuildError Unit :=
  if isSafeName name then pure () else throw (.identifier role name)

end Criteria
