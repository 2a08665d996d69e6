import StaticSite.Component.Accordion
import StaticSite.Component.BlogList
import StaticSite.Component.Button
import StaticSite.Component.Carousel
import StaticSite.Component.Cart
import StaticSite.Component.Contact
import StaticSite.Component.Countdown
import StaticSite.Component.Faq
import StaticSite.Component.Footer
import StaticSite.Component.Form
import StaticSite.Component.Gallery
import StaticSite.Component.Hero
import StaticSite.Component.Image
import StaticSite.Component.LocationMap
import StaticSite.Component.Modal
import StaticSite.Component.Navigation
import StaticSite.Component.Newsletter
import StaticSite.Component.Pricing
import StaticSite.Component.Product
import StaticSite.Component.SocialLinks
import StaticSite.Component.Stats
import StaticSite.Component.Tabs
import StaticSite.Component.Team
import StaticSite.Component.Testimonials
import StaticSite.Component.TextBlock
import StaticSite.Component.Timeline
import StaticSite.Component.Video

/-!
Contract: the types of components that every site has.

Owns:
- the list of definitions.

Does not own: the definitions themselves.
-/

namespace StaticSite.Component

def catalogue : List Definition :=
  [ Hero.definition,
    TextBlock.definition,
    Image.definition,
    Button.definition,
    Video.definition,
    LocationMap.definition,
    SocialLinks.definition,
    Navigation.definition,
    Footer.definition,
    Gallery.definition,
    Testimonials.definition,
    Pricing.definition,
    Faq.definition,
    Team.definition,
    Stats.definition,
    Timeline.definition,
    BlogList.definition,
    Form.definition,
    Contact.definition,
    Newsletter.definition,
    Tabs.definition,
    Accordion.definition,
    Modal.definition,
    Carousel.definition,
    Countdown.definition,
    Product.definition,
    Cart.definition ]

end StaticSite.Component
