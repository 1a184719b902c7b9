import AffinityAssistant.Creation

set_option autoImplicit false

namespace AffinityAssistant

end AffinityAssistant
