import PageEdit.Context.Assemble
import PageEdit.Relevance.Ranking

/-!
# From a request to a context

The sections that a request is about, on the page as it is now, are the hits that a context is assembled
from.
-/

namespace PageEdit

/-- The hits of a request. -/
def search (lookup : Lookup) (request : String) (settings : Settings) : List Hit :=
  ((Relevance.rank lookup.page request settings.sectionLimit).take settings.hitLimit).map .ofExcerpt

/-- What a generator should see for a request. -/
def prepare (lookup : Lookup) (request : String) (settings : Settings) : Assembled :=
  assemble lookup (search lookup request settings) settings.context

end PageEdit
