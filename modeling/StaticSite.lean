import StaticSite.Page.Compile
import StaticSite.Proofs.Association
import StaticSite.Proofs.Emission.Background
import StaticSite.Proofs.Emission.BaseRule
import StaticSite.Proofs.Emission.Listing
import StaticSite.Proofs.Emission.Mark
import StaticSite.Proofs.Emission.Totality
import StaticSite.Proofs.Json.Visit
import StaticSite.Proofs.Page.Assets
import StaticSite.Proofs.Page.Concatenation
import StaticSite.Proofs.Page.DistinctIds
import StaticSite.Proofs.Page.Handshake
import StaticSite.Proofs.Page.Links
import StaticSite.Proofs.Page.Losses
import StaticSite.Proofs.Page.Order
import StaticSite.Proofs.Page.Recovery
import StaticSite.Proofs.Page.Regions
import StaticSite.Proofs.Page.RendererLoss
import StaticSite.Proofs.Page.ScriptData
import StaticSite.Proofs.Request.Content
import StaticSite.Proofs.Schema.Contract
import StaticSite.Proofs.Service.Compilation
import StaticSite.Proofs.Service.Revalidation
import StaticSite.Proofs.Site.HeadComment
import StaticSite.Proofs.Site.Lookup
import StaticSite.Proofs.Site.PageLoss
import StaticSite.Proofs.Site.Publication
import StaticSite.Proofs.Site.Renewal
import StaticSite.Proofs.Site.Sitemap
import StaticSite.Proofs.Storage.Descent
import StaticSite.Proofs.Storage.Isolation
import StaticSite.Proofs.Storage.Reachability
import StaticSite.Proofs.Storage.ReadAfterWrite
import StaticSite.Proofs.Storage.Retry
import StaticSite.Request.Website
import StaticSite.Service.Handler
import StaticSite.Settings
import StaticSite.Site.Files
import StaticSite.Storage.Download
import StaticSite.Storage.Upload
